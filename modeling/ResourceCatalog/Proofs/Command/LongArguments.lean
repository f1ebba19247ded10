import Mathlib.Data.List.Perm.Basic
import ResourceCatalog.Command.Arguments

/-!
# Long arguments in any order

An argument with a long name, and its value behind `=` where it has one, changes what has been read of a level in one
step. Where the steps of such arguments can be exchanged, their order does not matter.
-/

namespace ResourceCatalog.Command

variable {σ ι : Type}

/-! ## Forms -/

theorem splitValue_append {name : List Char} (hname : '=' ∉ name) (value : List Char) :
    splitValue (name ++ '=' :: value) = (name, some value) := by
  induction name with
  | nil => rfl
  | cons c name ih =>
    rw [List.mem_cons, not_or] at hname
    rw [List.cons_append, splitValue, if_neg (Ne.symm hname.1), ih hname.2]

theorem splitValue_of_notMem {name : List Char} (hname : '=' ∉ name) : splitValue name = (name, none) := by
  induction name with
  | nil => rfl
  | cons c name ih =>
    rw [List.mem_cons, not_or] at hname
    rw [splitValue, if_neg (Ne.symm hname.1), ih hname.2]

theorem formOf_hyphens {arg : String} {c : Char} {rest : List Char} (harg : arg.toList = '-' :: '-' :: c :: rest) :
    formOf arg = .long (String.ofList (splitValue (c :: rest)).1) ((splitValue (c :: rest)).2.map String.ofList) := by
  rw [formOf, harg]
  rfl

theorem formOf_valueArgument {name : String} (hname : '=' ∉ name.toList) (value : String) :
    formOf (valueArgument name value) = .long name (some value) := by
  have hsplit := splitValue_append hname value.toList
  have harg : (valueArgument name value).toList = '-' :: '-' :: (name.toList ++ '=' :: value.toList) := by
    simp [valueArgument]
  -- Behind the hyphens there is at least the equality sign.
  cases hrest : name.toList ++ '=' :: value.toList with
  | nil => simp at hrest
  | cons c rest =>
    rw [hrest] at harg hsplit
    rw [formOf_hyphens harg, hsplit, Option.map_some, String.ofList_toList, String.ofList_toList]

theorem formOf_name {name : String} (hname : '=' ∉ name.toList) (hne : name.toList ≠ []) :
    formOf ("--" ++ name) = .long name none := by
  have hsplit := splitValue_of_notMem hname
  have harg : ("--" ++ name).toList = '-' :: '-' :: name.toList := by simp
  cases hrest : name.toList with
  | nil => exact absurd hrest hne
  | cons c rest =>
    rw [hrest] at harg hsplit
    rw [formOf_hyphens harg, hsplit, Option.map_none, ← hrest, String.ofList_toList]

/-! ## Steps -/

/-- The argument changes what has been read where nothing is pending and operands have not begun. -/
def Level.Sets (level : Level σ) (arg : String) (set : σ → Except Usage σ) : Prop :=
  ∀ p : Progress σ, p.pending = .nothing → p.trailing = false → level.take p arg = p.apply set

theorem Progress.settle_of_nothing {p : Progress σ} (hpending : p.pending = .nothing) : p.settle = .ok p := by
  rw [settle, hpending]

theorem Progress.apply_of_nothing {p : Progress σ} (hpending : p.pending = .nothing) {set : σ → Except Usage σ}
    {state : σ} (hset : set p.state = .ok state) : p.apply set = .ok { p with state, explicit := true } := by
  rw [apply, settle_of_nothing hpending]
  show (set p.state).bind _ = _
  rw [hset]
  rfl

theorem Level.take_of_form {level : Level σ} {p : Progress σ} {arg name : String} {value : Option String}
    (hpending : p.pending = .nothing) (htrailing : p.trailing = false) (hform : formOf arg = .long name value) :
    level.take p arg = level.takeLong p name value := by
  rw [take, htrailing, hpending, if_neg Bool.false_ne_true, takeFree, hform]

theorem Level.sets_value {level : Level σ} (name : String) {o : OptionSpec σ} {negative : Bool} {take : Take σ}
    {value : String} {set : σ → Except Usage σ} (hname : '=' ∉ name.toList)
    (hfind : (level.options.find? fun o => o.name = name) = some o) (heffect : o.effect = .value negative take)
    (htake : ∀ state, take value state = set state) : level.Sets (valueArgument name value) set := by
  intro p hpending htrailing
  rw [take_of_form hpending htrailing (formOf_valueArgument hname value), takeLong, hfind, ← funext htake]
  simp only [heffect]

theorem Level.sets_flag {level : Level σ} (name : String) {o : OptionSpec σ} {raise set : σ → Except Usage σ}
    (hname : '=' ∉ name.toList) (hne : name.toList ≠ [])
    (hfind : (level.options.find? fun o => o.name = name) = some o) (heffect : o.effect = .flag raise)
    (hraise : ∀ state, raise state = set state) : level.Sets ("--" ++ name) set := by
  intro p hpending htrailing
  rw [take_of_form hpending htrailing (formOf_name hname hne), takeLong, hfind, ← funext hraise]
  simp only [heffect]

/-! ## Runs -/

section Run

variable {level : Level σ} {text : ι → String} {put : ι → σ → Except Usage σ}

theorem foldlM_cons_eq_ok_iff {i : ι} {items : List ι} {state final : σ} :
    (i :: items).foldlM (fun s i => put i s) state = .ok final ↔
      ∃ s, put i state = .ok s ∧ items.foldlM (fun s i => put i s) s = .ok final := by
  rw [List.foldlM_cons]
  cases put i state with
  | ok s => exact ⟨fun h => ⟨s, rfl, h⟩, fun ⟨_, hs, h⟩ => Except.ok.inj hs ▸ h⟩
  | error e => exact ⟨nofun, nofun⟩

theorem Level.exists_read_eq (hcommands : level.commands = []) {items : List ι}
    (hsets : ∀ i ∈ items, level.Sets (text i) (put i)) {p : Progress σ} (hpending : p.pending = .nothing)
    (htrailing : p.trailing = false) {final : σ} (h : items.foldlM (fun s i => put i s) p.state = .ok final) :
    ∃ p', level.read p (items.map text) = .ok (.ended p') ∧ p'.pending = .nothing ∧ p'.state = final := by
  induction items generalizing p with
  | nil =>
    cases h
    exact ⟨p, rfl, hpending, rfl⟩
  | cons i items ih =>
    obtain ⟨s, hput, hrest⟩ := foldlM_cons_eq_ok_iff.1 h
    have htake : level.take p (text i) = .ok { p with state := s, explicit := true } :=
      (hsets i List.mem_cons_self p hpending htrailing).trans (p.apply_of_nothing hpending hput)
    rw [List.map_cons, read, hcommands, List.contains_nil, Bool.and_false, if_neg Bool.false_ne_true, htake]
    exact ih (fun j hj => hsets j (List.mem_cons_of_mem i hj)) hpending htrailing hrest

theorem Level.readLast_eq_ok (hcommands : level.commands = []) {items : List ι}
    (hsets : ∀ i ∈ items, level.Sets (text i) (put i)) {state final : σ}
    (h : items.foldlM (fun s i => put i s) state = .ok final) :
    level.readLast state (items.map text) = .ok final := by
  obtain ⟨p, hread, hpending, hstate⟩ := level.exists_read_eq (p := { state }) hcommands hsets rfl rfl h
  rw [readLast, hread]
  show (p.settle).bind _ = _
  rw [p.settle_of_nothing hpending, ← hstate]
  rfl

/-! ## Orders -/

/-- Where the first step succeeds and then the second, they do so in the other order with the same outcome. -/
def Swaps (f g : σ → Except Usage σ) : Prop :=
  ∀ s t u, f s = .ok t → g t = .ok u → ∃ t', g s = .ok t' ∧ f t' = .ok u

theorem foldlM_of_perm (hswap : ∀ i j, Swaps (put i) (put j)) {items items' : List ι} (hperm : items.Perm items')
    {state final : σ} (h : items.foldlM (fun s i => put i s) state = .ok final) :
    items'.foldlM (fun s i => put i s) state = .ok final := by
  induction hperm generalizing state with
  | nil => exact h
  | cons i _ ih =>
    obtain ⟨s, hput, hrest⟩ := foldlM_cons_eq_ok_iff.1 h
    exact foldlM_cons_eq_ok_iff.2 ⟨s, hput, ih hrest⟩
  | swap i j items =>
    obtain ⟨s, hj, hrest⟩ := foldlM_cons_eq_ok_iff.1 h
    obtain ⟨t, hi, hrest⟩ := foldlM_cons_eq_ok_iff.1 hrest
    obtain ⟨s', hi', hj'⟩ := hswap j i state s t hj hi
    exact foldlM_cons_eq_ok_iff.2 ⟨s', hi', foldlM_cons_eq_ok_iff.2 ⟨t, hj', hrest⟩⟩
  | trans _ _ ih ih' => exact ih' (ih h)

theorem exists_perm_of_perm_map {args : List String} {items : List ι} (h : args.Perm (items.map text)) :
    ∃ items' : List ι, items'.Perm items ∧ args = items'.map text := by
  have hitems : List.Forall₂ (fun arg i => arg = text i) (items.map text) items :=
    List.forall₂_map_left_iff.2 (List.forall₂_same.2 fun _ _ => rfl)
  obtain ⟨items', hargs, hperm⟩ := List.perm_comp_forall₂ h hitems
  refine ⟨items', hperm, ?_⟩
  rw [← List.forall₂_eq_eq_eq, List.forall₂_map_right_iff]
  exact hargs

/-- Arguments that can be exchanged are read alike in any order. -/
theorem Level.readLast_of_perm (hcommands : level.commands = []) {items : List ι}
    (hsets : ∀ i ∈ items, level.Sets (text i) (put i)) (hswap : ∀ i j, Swaps (put i) (put j)) {state final : σ}
    (h : items.foldlM (fun s i => put i s) state = .ok final) {args : List String}
    (hperm : args.Perm (items.map text)) : level.readLast state args = .ok final := by
  obtain ⟨items', hitems, rfl⟩ := exists_perm_of_perm_map hperm
  exact level.readLast_eq_ok hcommands (fun i hi => hsets i (hitems.mem_iff.1 hi))
    (foldlM_of_perm hswap hitems.symm h)

end Run

/-! ## Fields that are given once -/

section Fields

variable {α : Type} {s t : σ}

/-- An argument for a field: its text, whether the field has no value yet, and what has been read with its value. -/
structure Entry (σ : Type) where
  argument : String
  free : σ → Bool
  set : σ → σ

/-- Gives the field its value unless it has one. -/
def Entry.put (e : Entry σ) (s : σ) : Except Usage σ :=
  if e.free s then .ok (e.set s) else .error .repeatedArgument

theorem Entry.put_eq_ok_iff {e : Entry σ} : e.put s = .ok t ↔ e.free s = true ∧ e.set s = t := by
  rw [put]
  split
  · rename_i hfree
    exact ⟨fun h => ⟨hfree, Except.ok.inj h⟩, fun h => congrArg Except.ok h.2⟩
  · rename_i hfree
    exact ⟨nofun, fun h => absurd h.1 hfree⟩

theorem setOnce_of_ok {current : Option α} {put : α → σ} {value : Except Usage α} {a : α} (h : value = .ok a) :
    setOnce current put value = if current.isNone then .ok (put a) else .error .repeatedArgument := by
  cases current with
  | none => exact congrArg (Except.map put) h
  | some b => rfl

theorem raiseOnce_eq {current : Bool} {raised : σ} :
    raiseOnce current raised = if !current then .ok raised else .error .repeatedArgument := by
  cases current <;> rfl

/-- Entries that both succeed are for different fields, and do not get in each other's way. -/
def Entry.Apart (e e' : Entry σ) : Prop :=
  ∀ s, e.free s = true → e'.free (e.set s) = true →
    e'.free s = true ∧ e.free (e'.set s) = true ∧ e.set (e'.set s) = e'.set (e.set s)

theorem Entry.Apart.swaps {e e' : Entry σ} (h : e.Apart e') : Swaps e.put e'.put := by
  intro s t u he he'
  obtain ⟨hfree, rfl⟩ := put_eq_ok_iff.1 he
  obtain ⟨hfree', rfl⟩ := put_eq_ok_iff.1 he'
  obtain ⟨hs', hs, hset⟩ := h s hfree hfree'
  exact ⟨e'.set s, put_eq_ok_iff.2 ⟨hs', rfl⟩, put_eq_ok_iff.2 ⟨hs, hset⟩⟩

end Fields

end ResourceCatalog.Command
