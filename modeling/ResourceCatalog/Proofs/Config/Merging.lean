import ResourceCatalog.Config.Path
import ResourceCatalog.Word

/-!
# What sources give to settings

A source gives a setting as a member of the table for its section or under a path of its own. Put over other
values, a source that gives each setting at most values of its type changes the settings that it gives and leaves
the others as they are, so several sources hold for each setting what the last one gives that gives it at all.
-/

namespace ResourceCatalog.Config

/-! ## Settings -/

inductive Setting where
  | url
  | maxConnections
  | minConnections
  | connectTimeoutSeconds
  | idleTimeoutSeconds
  | level
  | format
deriving DecidableEq, Repr

def Setting.all : List Setting :=
  [.url, .maxConnections, .minConnections, .connectTimeoutSeconds, .idleTimeoutSeconds, .level, .format]

theorem Setting.mem_all (s : Setting) : s ∈ all := by
  cases s <;> decide

/-- What a setting can be set to. -/
inductive Datum where
  | text (s : String)
  | number (n : Nat)
deriving DecidableEq, Repr

namespace Setting

/-- The name of the section that the setting belongs to. -/
def sectionName : Setting → String
  | level | format => "logging"
  | _ => "database"

def name : Setting → String
  | url => "url"
  | maxConnections => "max_connections"
  | minConnections => "min_connections"
  | connectTimeoutSeconds => "connect_timeout_seconds"
  | idleTimeoutSeconds => "idle_timeout_seconds"
  | level => "level"
  | format => "format"

/-- The first number that is too large for the setting; there is none for a text. -/
def bound? : Setting → Option Int
  | url | level | format => none
  | maxConnections | minConnections => some Word.size32
  | connectTimeoutSeconds | idleTimeoutSeconds => some Word.bound64

/-- What a value of the setting's type sets it to. -/
def datum? (s : Setting) : Value → Option Datum
  | .scalar (.text t) _ => if s.bound? = none then some (.text t) else none
  | .scalar (.integer n) _ =>
    s.bound?.bind fun bound => if 0 ≤ n ∧ n < bound then some (.number n.toNat) else none
  | _ => none

end Setting

/-! ## Sources -/

/-- The member of that name in a table, if there is one. -/
def memberIn? (target : Option Value) (name : String) : Option Value := (tableIn target).1.lookup name

namespace Setting

variable (s : Setting)

/-- The value that an entry of a source gives the setting: the last one of the setting's name in the table for its
section, or the value under its own path. -/
def valueIn? (steps : List Step) (value : Value) : Option Value :=
  match steps with
  | [.member outer] => if outer = s.sectionName then (tableIn (some value)).1.reverse.lookup s.name else none
  | [.member outer, .member inner] => if outer = s.sectionName ∧ inner = s.name then some value else none
  | _ => none

/-- A value for the section of the setting is a table that gives the setting nothing or values of its type. -/
def AdmitsSection : Value → Prop
  | .table members _ => ∀ member ∈ members, member.1 = s.name → (s.datum? member.2).isSome
  | _ => False

instance : (value : Value) → Decidable (s.AdmitsSection value)
  | .table members _ =>
    inferInstanceAs (Decidable (∀ member ∈ members, member.1 = s.name → (s.datum? member.2).isSome))
  | .scalar _ _ | .list _ _ => .isFalse id

/-- An entry of a source gives the setting nothing or values of its type. -/
def Admits (steps : List Step) (value : Value) : Prop :=
  match steps with
  | [.member outer] => outer = s.sectionName → s.AdmitsSection value
  | .member outer :: .member inner :: rest =>
    outer = s.sectionName ∧ inner = s.name → rest = [] ∧ (s.datum? value).isSome
  | .member outer :: .item _ :: _ => outer ≠ s.sectionName
  | _ => True

instance (value : Value) : (steps : List Step) → Decidable (s.Admits steps value)
  | [] | .item _ :: _ => .isTrue trivial
  | [.member outer] => inferInstanceAs (Decidable (outer = s.sectionName → s.AdmitsSection value))
  | .member outer :: .member inner :: rest =>
    inferInstanceAs (Decidable (outer = s.sectionName ∧ inner = s.name → rest = [] ∧ (s.datum? value).isSome))
  | .member outer :: .item _ :: _ => inferInstanceAs (Decidable (outer ≠ s.sectionName))

/-- What a source sets the setting to, if anything. -/
def given? (layer : Layer) : Option Datum :=
  layer.reverse.findSome? fun (name, value) => (s.valueIn? (pathOf name) value).bind s.datum?

/-- The value of the setting in the values of all sources. -/
def find? (config : Value) : Option Value := memberIn? (memberIn? (some config) s.sectionName) s.name

end Setting

/-- Every entry of the source gives each setting nothing or values of its type. -/
def Layer.WellFormed (layer : Layer) : Prop := ∀ s : Setting, ∀ entry ∈ layer, s.Admits (pathOf entry.1) entry.2

instance (layer : Layer) : Decidable layer.WellFormed :=
  decidable_of_iff (∀ s ∈ Setting.all, ∀ entry ∈ layer, s.Admits (pathOf entry.1) entry.2)
    ⟨fun h s => h s s.mem_all, fun h s _ => h s⟩

/-! ## Members of tables -/

theorem lookup_cons (k name : String) (value : Value) (rest : List (String × Value)) :
    ((name, value) :: rest).lookup k = if k = name then some value else rest.lookup k := by
  rw [List.lookup_cons]
  by_cases h : k = name
  · rw [if_pos h, beq_iff_eq.2 h]
  · rw [if_neg h, beq_false_of_ne h]

theorem lookup_setMember (name k : String) (value : Value) (members : List (String × Value)) :
    (setMember name value members).lookup k = if k = name then some value else members.lookup k := by
  induction members with
  | nil => exact lookup_cons k name value []
  | cons member rest ih =>
    obtain ⟨other, v⟩ := member
    rw [setMember]
    by_cases hother : other = name
    · rw [if_pos hother, lookup_cons, lookup_cons, hother]
      split <;> rfl
    · rw [if_neg hother, lookup_cons, lookup_cons, ih]
      by_cases hk : k = other
      · rw [if_pos hk, if_neg (hk ▸ hother), if_pos hk]
      · rw [if_neg hk, if_neg hk]

/-- A value under a path of members goes into the table that the first of them names. -/
theorem memberIn?_put (incoming : Value) (name k : String) (steps : List Step) (target : Option Value) :
    memberIn? (some (incoming.put (.member name :: steps) target)) k =
      if k = name then some (incoming.put steps (memberIn? target name)) else memberIn? target k :=
  lookup_setMember name k _ _

theorem Setting.eq_scalar_of_datum? {s : Setting} {v : Value} (h : (s.datum? v).isSome) :
    ∃ scalar origin, v = .scalar scalar origin := by
  cases v with
  | scalar scalar origin => exact ⟨scalar, origin, rfl⟩
  | list items origin | table members origin => cases h

theorem lookup_overMembers {s : Setting} {new : List (String × Value)}
    (hnew : ∀ member ∈ new, member.1 = s.name → (s.datum? member.2).isSome) (old : List (String × Value)) :
    (overMembers new old).lookup s.name = (new.reverse.lookup s.name).or (old.lookup s.name) := by
  induction new generalizing old with
  | nil => rfl
  | cons member rest ih =>
    obtain ⟨name, value⟩ := member
    rw [overMembers, ih fun member hmember => hnew member (List.mem_cons_of_mem _ hmember), lookup_setMember,
      List.reverse_cons, List.lookup_append, Option.or_assoc, lookup_cons]
    congr 1
    by_cases hname : s.name = name
    · -- A value without parts takes the place of what was there.
      obtain ⟨scalar, origin, rfl⟩ := Setting.eq_scalar_of_datum? (hnew _ List.mem_cons_self hname.symm)
      rw [if_pos hname, if_pos hname, Value.over]
      rfl
    · rw [if_neg hname, if_neg hname]
      rfl

/-! ## One entry -/

/-- There is nothing, or a table. -/
def NoneOrTable : Option Value → Prop
  | none | some (.table _ _) => True
  | _ => False

namespace Setting

variable {s : Setting} {config value : Value} {d : Option Datum} {steps : List Step}

/-- The values of all sources set the setting to that, or do not have it. -/
structure Holds (s : Setting) (config : Value) (d : Option Datum) : Prop where
  eq_table : ∃ members origin, config = .table members origin
  noneOrTable : NoneOrTable (memberIn? (some config) s.sectionName)
  found : (s.find? config).map s.datum? = d.map some

/-- What is given wins over what is there. -/
theorem map_datum?_or {given found : Option Value} (hgiven : ∀ v, given = some v → (s.datum? v).isSome)
    (hfound : found.map s.datum? = d.map some) :
    (given.or found).map s.datum? = ((given.bind s.datum?).or d).map some := by
  cases given with
  | none => exact hfound
  | some v =>
    obtain ⟨datum, hdatum⟩ := Option.isSome_iff_exists.1 (hgiven v rfl)
    rw [Option.some_or, Option.map_some, Option.bind_some, hdatum]
    rfl

/-- A table for the section of the setting. -/
theorem Holds.put_section (h : s.Holds config d) {members : List (String × Value)} {origin : Option String}
    (hmembers : ∀ member ∈ members, member.1 = s.name → (s.datum? member.2).isSome) :
    s.Holds (Value.put (.table members origin) [.member s.sectionName] (some config))
      (((members.reverse.lookup s.name).bind s.datum?).or d) := by
  have hsection := memberIn?_put (.table members origin) s.sectionName s.sectionName [] (some config)
  rw [if_pos rfl] at hsection
  refine ⟨⟨_, _, rfl⟩, hsection ▸ trivial, ?_⟩
  rw [find?, hsection]
  show ((overMembers members _).lookup s.name).map s.datum? = _
  rw [lookup_overMembers hmembers]
  refine map_datum?_or (fun v hv => ?_) h.found
  obtain ⟨before, after, hsplit, -⟩ := List.lookup_eq_some_iff.1 hv
  have hmem : (s.name, v) ∈ members.reverse := hsplit ▸ List.mem_append_right _ List.mem_cons_self
  exact hmembers _ (List.mem_reverse.1 hmem) rfl

/-- A value under the path of a setting of the same section, or of something in it. -/
theorem Holds.put_member (h : s.Holds config d) {inner : String} {rest : List Step}
    (hadmits : inner = s.name → rest = [] ∧ (s.datum? value).isSome) :
    s.Holds (value.put (.member s.sectionName :: .member inner :: rest) (some config))
      (((if inner = s.name then some value else none).bind s.datum?).or d) := by
  have hsection := memberIn?_put value s.sectionName s.sectionName (.member inner :: rest) (some config)
  rw [if_pos rfl] at hsection
  refine ⟨⟨_, _, rfl⟩, hsection ▸ trivial, ?_⟩
  rw [find?, hsection, memberIn?_put]
  by_cases hinner : inner = s.name
  · obtain ⟨rfl, hvalue⟩ := hadmits hinner
    obtain ⟨scalar, origin, rfl⟩ := eq_scalar_of_datum? hvalue
    have hgiven : ∀ v, some (Value.scalar scalar origin) = some v → (s.datum? v).isSome := by
      rintro v ⟨⟩
      exact hvalue
    rw [if_pos hinner.symm, if_pos hinner]
    exact map_datum?_or hgiven h.found
  · rw [if_neg (Ne.symm hinner), if_neg hinner]
    exact h.found

/-- A value elsewhere. -/
theorem Holds.put_elsewhere (h : s.Holds config d) {outer : String} {rest : List Step}
    (houter : outer ≠ s.sectionName) : s.Holds (value.put (.member outer :: rest) (some config)) d := by
  have hsection := memberIn?_put value outer s.sectionName rest (some config)
  rw [if_neg houter.symm] at hsection
  refine ⟨⟨_, _, rfl⟩, hsection ▸ h.noneOrTable, ?_⟩
  rw [find?, hsection]
  exact h.found

theorem pathOf_eq_cons (name : String) : ∃ outer rest, pathOf name = .member outer :: rest := by
  rw [pathOf]
  split
  · exact ⟨_, _, rfl⟩
  · exact ⟨_, _, rfl⟩

theorem valueIn?_elsewhere {outer : String} {rest : List Step} (houter : outer ≠ s.sectionName) :
    s.valueIn? (.member outer :: rest) value = none := by
  unfold valueIn?
  split
  · rename_i heq
    cases heq
    exact if_neg houter
  · rename_i heq
    cases heq
    exact if_neg fun hboth => houter hboth.1
  · rfl

theorem valueIn?_member {inner : String} {rest : List Step} (hrest : inner = s.name → rest = []) :
    s.valueIn? (.member s.sectionName :: .member inner :: rest) value =
      if inner = s.name then some value else none := by
  by_cases hinner : inner = s.name
  · rw [hrest hinner, valueIn?, if_pos ⟨rfl, hinner⟩, if_pos hinner]
  · rw [if_neg hinner]
    cases rest with
    | nil => exact if_neg fun hboth => hinner hboth.2
    | cons step rest => rfl

theorem Holds.put (h : s.Holds config d) {name : String} (hadmits : s.Admits (pathOf name) value) :
    s.Holds (value.put (pathOf name) (some config)) (((s.valueIn? (pathOf name) value).bind s.datum?).or d) := by
  obtain ⟨outer, rest, hpath⟩ := pathOf_eq_cons name
  rw [hpath] at hadmits ⊢
  by_cases houter : outer = s.sectionName
  · subst houter
    match rest with
    | [] =>
      have htable := hadmits rfl
      cases value with
      | table members origin =>
        rw [valueIn?, if_pos rfl]
        exact h.put_section htable
      | list items origin | scalar scalar origin => exact htable.elim
    | .member inner :: rest =>
      rw [valueIn?_member fun hinner => (hadmits ⟨rfl, hinner⟩).1]
      exact h.put_member fun hinner => hadmits ⟨rfl, hinner⟩
    | .item _ :: _ => exact absurd rfl hadmits
  · rw [valueIn?_elsewhere houter]
    exact h.put_elsewhere houter

/-! ## Sources -/

theorem given?_cons (entry : String × Value) (layer : Layer) :
    s.given? (entry :: layer) = (s.given? layer).or ((s.valueIn? (pathOf entry.1) entry.2).bind s.datum?) := by
  rw [given?, List.reverse_cons, List.findSome?_append, List.findSome?_singleton]
  rfl

theorem Holds.applyLayer {layer : Layer} (h : s.Holds config d)
    (hlayer : ∀ entry ∈ layer, s.Admits (pathOf entry.1) entry.2) :
    s.Holds (applyLayer config layer) ((s.given? layer).or d) := by
  induction layer generalizing config d with
  | nil => exact h
  | cons entry layer ih =>
    rw [given?_cons, Option.or_assoc]
    exact ih (h.put (hlayer entry List.mem_cons_self)) fun entry hentry =>
      hlayer entry (List.mem_cons_of_mem _ hentry)

theorem Holds.foldl {layers : List Layer} (h : s.Holds config d)
    (hlayers : ∀ layer ∈ layers, layer.WellFormed) :
    s.Holds (layers.foldl Config.applyLayer config) ((layers.reverse.findSome? s.given?).or d) := by
  induction layers generalizing config d with
  | nil => exact h
  | cons layer layers ih =>
    rw [List.reverse_cons, List.findSome?_append, List.findSome?_singleton, Option.or_assoc]
    exact ih (h.applyLayer (hlayers layer List.mem_cons_self s)) fun layer hlayer =>
      hlayers layer (List.mem_cons_of_mem _ hlayer)

/-- The values of several sources set each setting to what the last source gives that gives it. -/
theorem holds_merged (s : Setting) {layers : List Layer} (hlayers : ∀ layer ∈ layers, layer.WellFormed) :
    s.Holds (merged layers) (layers.reverse.findSome? s.given?) := by
  have hempty : s.Holds (.table [] none) none := ⟨⟨[], none, rfl⟩, trivial, rfl⟩
  have h := hempty.foldl hlayers
  rwa [Option.or_none] at h

end Setting

end ResourceCatalog.Config
