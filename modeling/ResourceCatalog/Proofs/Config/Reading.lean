import ResourceCatalog.Config.Reading
import ResourceCatalog.Proofs.Config.Merging

/-!
# Settings out of what is given

Values that hold what is given for each setting are read as settings if the address of the database is among it.
Each setting is then what is given for it, or its default.
-/

namespace ResourceCatalog.Config

/-- What the setting is set to. -/
def Settings.datum (c : Settings) : Setting → Datum
  | .url => .text c.database.url
  | .maxConnections => .number c.database.maxConnections
  | .minConnections => .number c.database.minConnections
  | .connectTimeoutSeconds => .number c.database.connectTimeoutSeconds
  | .idleTimeoutSeconds => .number c.database.idleTimeoutSeconds
  | .level => .text c.logging.level
  | .format => .text c.logging.format

theorem Settings.eq_of_datum {c c' : Settings} (h : ∀ s, c.datum s = c'.datum s) : c = c' := by
  obtain ⟨⟨url, most, least, connect, idle⟩, level, format⟩ := c
  obtain ⟨⟨url', most', least', connect', idle'⟩, level', format'⟩ := c'
  cases h .url
  cases h .maxConnections
  cases h .minConnections
  cases h .connectTimeoutSeconds
  cases h .idleTimeoutSeconds
  cases h .level
  cases h .format
  rfl

/-- What a setting is set to where no source gives it. The address has to be given. -/
def Setting.default? : Setting → Option Datum
  | .url => none
  | .maxConnections => some (.number 20)
  | .minConnections => some (.number 1)
  | .connectTimeoutSeconds => some (.number 10)
  | .idleTimeoutSeconds => some (.number 300)
  | .level => some (.text "info")
  | .format => some (.text "pretty")

/-! ## Single settings -/

section Members

variable {α : Type} {s : Setting} {read : Reading α} {wrap : α → Datum} {members : List (String × Value)}
  {d : Option Datum}

/-- The reader takes every value of the setting's type for what it sets the setting to. -/
def Setting.ReadBy (s : Setting) (read : Reading α) (wrap : α → Datum) : Prop :=
  ∀ v d, s.datum? v = some d → ∃ a, read v = .ok a ∧ wrap a = d

theorem Setting.readBy_readText (h : s.bound? = none) : s.ReadBy readText .text := by
  intro v d hd
  unfold datum? at hd
  split at hd
  · rw [if_pos h] at hd
    cases hd
    exact ⟨_, rfl, rfl⟩
  · rw [h] at hd
    cases hd
  · cases hd

/-- Numbers of the setting's type are read as they are, also by readers that check them further. -/
theorem Setting.readBy_number {bound : Int} {read : Reading Nat} (h : s.bound? = some bound)
    (hread : ∀ (n : Int) origin, 0 ≤ n → n < bound → read (.scalar (.integer n) origin) = .ok n.toNat) :
    s.ReadBy read .number := by
  intro v d hd
  unfold datum? at hd
  split at hd
  · rw [h] at hd
    cases hd
  · rename_i n origin
    rw [h, Option.bind_some] at hd
    split at hd
    · rename_i hn
      cases hd
      exact ⟨n.toNat, hread n origin hn.1 hn.2, rfl⟩
    · cases hd
  · cases hd

theorem readNumber_integer {n : Int} (hn : 0 ≤ n) (origin : Option String) :
    readNumber (.scalar (.integer n) origin) = .ok n.toNat :=
  if_pos hn

theorem readSmallNumber_integer {n : Int} (hn : 0 ≤ n) (hbound : n < Word.size32) (origin : Option String) :
    readSmallNumber (.scalar (.integer n) origin) = .ok n.toNat := by
  rw [readSmallNumber, readNumber_integer hn]
  exact if_pos (by omega)

theorem Setting.readBy_readNumber (h : s.bound? = some Word.bound64) : s.ReadBy readNumber .number :=
  readBy_number h fun _ origin hn _ => readNumber_integer hn origin

theorem Setting.readBy_readSmallNumber (h : s.bound? = some Word.size32) : s.ReadBy readSmallNumber .number :=
  readBy_number h fun _ origin hn hbound => readSmallNumber_integer hn hbound origin

theorem Setting.ReadBy.exists_member?_eq (hread : s.ReadBy read wrap)
    (h : (members.lookup s.name).map s.datum? = d.map some) :
    ∃ a, member? members s.name read = .ok a ∧ a.map wrap = d := by
  rw [member?]
  cases hlookup : members.lookup s.name with
  | none =>
    rw [hlookup] at h
    exact ⟨none, rfl, (Option.map_eq_none_iff.1 h.symm).symm⟩
  | some v =>
    rw [hlookup] at h
    obtain ⟨datum, rfl, hdatum⟩ := Option.map_eq_some_iff.1 h.symm
    obtain ⟨a, ha, hwrap⟩ := hread v datum hdatum.symm
    refine ⟨some a, ?_, congrArg some hwrap⟩
    show ((read v).map some).mapError _ = _
    rw [ha]
    rfl

end Members

/-! ## Sections -/

section Sections

variable {members : List (String × Value)} {data : Setting → Option Datum}

/-- What has been read of the fields is what is given. -/
structure DatabaseSettings.Fields.Holds (f : Fields) (data : Setting → Option Datum) : Prop where
  url : f.url.map .text = data .url
  maxConnections : f.maxConnections.map .number = data .maxConnections
  minConnections : f.minConnections.map .number = data .minConnections
  connectTimeoutSeconds : f.connectTimeoutSeconds.map .number = data .connectTimeoutSeconds
  idleTimeoutSeconds : f.idleTimeoutSeconds.map .number = data .idleTimeoutSeconds

structure LoggingSettings.Fields.Holds (f : Fields) (data : Setting → Option Datum) : Prop where
  level : f.level.map .text = data .level
  format : f.format.map .text = data .format

/-- The settings of the database, which need an address. -/
def DatabaseSettings.Fields.settings (f : Fields) : Except Error DatabaseSettings :=
  match f.url with
  | some url => .ok (f.withUrl url)
  | none => .error (.missing "url")

theorem DatabaseSettings.exists_ofTable_eq
    (h : ∀ s : Setting, s.sectionName = "database" → (members.lookup s.name).map s.datum? = (data s).map some) :
    ∃ f : Fields, f.Holds data ∧ ofTable members = f.settings := by
  obtain ⟨url, hurl, hurl'⟩ := (Setting.readBy_readText (s := .url) rfl).exists_member?_eq (h _ rfl)
  obtain ⟨most, hmost, hmost'⟩ :=
    (Setting.readBy_readSmallNumber (s := .maxConnections) rfl).exists_member?_eq (h _ rfl)
  obtain ⟨least, hleast, hleast'⟩ :=
    (Setting.readBy_readSmallNumber (s := .minConnections) rfl).exists_member?_eq (h _ rfl)
  obtain ⟨connect, hconnect, hconnect'⟩ :=
    (Setting.readBy_readNumber (s := .connectTimeoutSeconds) rfl).exists_member?_eq (h _ rfl)
  obtain ⟨idle, hidle, hidle'⟩ :=
    (Setting.readBy_readNumber (s := .idleTimeoutSeconds) rfl).exists_member?_eq (h _ rfl)
  refine ⟨⟨url, most, least, connect, idle⟩, ⟨hurl', hmost', hleast', hconnect', hidle'⟩, ?_⟩
  simp only [Setting.name] at hurl hmost hleast hconnect hidle
  rw [ofTable, hurl, hmost, hleast, hconnect, hidle]
  rfl

theorem LoggingSettings.exists_ofTable_eq
    (h : ∀ s : Setting, s.sectionName = "logging" → (members.lookup s.name).map s.datum? = (data s).map some) :
    ∃ f : Fields, f.Holds data ∧ ofTable members = .ok f.finish := by
  obtain ⟨level, hlevel, hlevel'⟩ := (Setting.readBy_readText (s := .level) rfl).exists_member?_eq (h _ rfl)
  obtain ⟨format, hformat, hformat'⟩ := (Setting.readBy_readText (s := .format) rfl).exists_member?_eq (h _ rfl)
  refine ⟨⟨level, format⟩, ⟨hlevel', hformat'⟩, ?_⟩
  simp only [Setting.name] at hlevel hformat
  rw [ofTable, hlevel, hformat]
  rfl

end Sections

/-! ## All settings -/

section All

variable {config : Value} {data : Setting → Option Datum}

/-- A section is not there and none of its settings is given, or it is a table of what is given. -/
theorem section_cases (h : ∀ s : Setting, s.Holds config (data s)) (t : Setting) :
    (memberIn? (some config) t.sectionName = none ∧
        ∀ s : Setting, s.sectionName = t.sectionName → none = data s) ∨
      ∃ inner origin, memberIn? (some config) t.sectionName = some (.table inner origin) ∧
        ∀ s : Setting, s.sectionName = t.sectionName → (inner.lookup s.name).map s.datum? = (data s).map some := by
  have hfound : ∀ s : Setting, s.sectionName = t.sectionName →
      (memberIn? (memberIn? (some config) t.sectionName) s.name).map s.datum? = (data s).map some :=
    fun s hs => hs ▸ (h s).found
  have htable := (h t).noneOrTable
  cases hsection : memberIn? (some config) t.sectionName with
  | none =>
    rw [hsection] at hfound
    exact .inl ⟨rfl, fun s hs => (Option.map_eq_none_iff.1 (hfound s hs).symm).symm⟩
  | some v =>
    rw [hsection] at hfound htable
    cases v with
    | table inner origin => exact .inr ⟨inner, origin, rfl, hfound⟩
    | scalar scalar origin | list items origin => exact htable.elim

theorem missing_within : Error.within "database" (.missing "url") = .missing "database.url" := by decide +kernel

theorem member?_database (h : ∀ s : Setting, s.Holds config (data s)) :
    ∃ f : DatabaseSettings.Fields, f.Holds data ∧
      (∀ url, f.url = some url →
        member? (tableIn (some config)).1 "database" DatabaseSettings.ofValue = .ok (some (f.withUrl url))) ∧
      (f.url = none → member? (tableIn (some config)).1 "database" DatabaseSettings.ofValue = .ok none ∨
        member? (tableIn (some config)).1 "database" DatabaseSettings.ofValue = .error (.missing "database.url")) := by
  rw [member?]
  rcases section_cases h .url with ⟨hsection, hnone⟩ | ⟨inner, origin, hsection, hinner⟩
  · rw [show (tableIn (some config)).1.lookup "database" = none from hsection]
    exact ⟨{}, ⟨hnone _ rfl, hnone _ rfl, hnone _ rfl, hnone _ rfl, hnone _ rfl⟩, nofun, fun _ => .inl rfl⟩
  · rw [show (tableIn (some config)).1.lookup "database" = some (.table inner origin) from hsection]
    obtain ⟨f, hf, hread⟩ := DatabaseSettings.exists_ofTable_eq hinner
    refine ⟨f, hf, fun url hurl => ?_, fun hurl => .inr ?_⟩
    · show ((DatabaseSettings.ofTable inner).map some).mapError _ = _
      rw [hread, DatabaseSettings.Fields.settings, hurl]
      rfl
    · show ((DatabaseSettings.ofTable inner).map some).mapError _ = _
      rw [hread, DatabaseSettings.Fields.settings, hurl]
      exact congrArg Except.error missing_within

theorem member?_logging (h : ∀ s : Setting, s.Holds config (data s)) :
    ∃ f : LoggingSettings.Fields, f.Holds data ∧ ∃ l : Option LoggingSettings,
      member? (tableIn (some config)).1 "logging" LoggingSettings.ofValue = .ok l ∧ l.getD {} = f.finish := by
  rw [member?]
  rcases section_cases h .level with ⟨hsection, hnone⟩ | ⟨inner, origin, hsection, hinner⟩
  · rw [show (tableIn (some config)).1.lookup "logging" = none from hsection]
    exact ⟨{}, ⟨hnone _ rfl, hnone _ rfl⟩, none, rfl, rfl⟩
  · rw [show (tableIn (some config)).1.lookup "logging" = some (.table inner origin) from hsection]
    obtain ⟨f, hf, hread⟩ := LoggingSettings.exists_ofTable_eq hinner
    refine ⟨f, hf, some f.finish, ?_, rfl⟩
    show ((LoggingSettings.ofTable inner).map some).mapError _ = _
    rw [hread]
    rfl

theorem some_getD {α : Type} (wrap : α → Datum) (a : Option α) (default : α) :
    some (wrap (a.getD default)) = (a.map wrap).or (some (wrap default)) := by
  cases a <;> rfl

theorem datum_eq {f : DatabaseSettings.Fields} (hf : f.Holds data) {l : LoggingSettings.Fields} (hl : l.Holds data)
    {url : String} (hurl : f.url = some url) (s : Setting) :
    some (Settings.datum ⟨f.withUrl url, l.finish⟩ s) = (data s).or s.default? := by
  cases s with
  | url =>
    rw [← hf.url, hurl]
    rfl
  | maxConnections => exact hf.maxConnections ▸ some_getD _ _ _
  | minConnections => exact hf.minConnections ▸ some_getD _ _ _
  | connectTimeoutSeconds => exact hf.connectTimeoutSeconds ▸ some_getD _ _ _
  | idleTimeoutSeconds => exact hf.idleTimeoutSeconds ▸ some_getD _ _ _
  | level => exact hl.level ▸ some_getD _ _ _
  | format => exact hl.format ▸ some_getD _ _ _

theorem ofValue_eq (h : ∀ s : Setting, s.Holds config (data s)) :
    (data .url ≠ none →
        ∃ c, Settings.ofValue config = .ok c ∧ ∀ s, some (c.datum s) = (data s).or s.default?) ∧
      (data .url = none →
        ∃ field ∈ ["database", "database.url"], Settings.ofValue config = .error (.missing field)) := by
  obtain ⟨members, origin, rfl⟩ := (h .url).eq_table
  obtain ⟨f, hf, hsome, hnone⟩ := member?_database h
  obtain ⟨l, hl, logging, hlogging, hfinish⟩ := member?_logging h
  simp only [tableIn] at hsome hnone hlogging
  show (_ → ∃ c, Settings.ofTable members = .ok c ∧ _) ∧ (_ → ∃ field ∈ _, Settings.ofTable members = _)
  rw [← hf.url, Settings.ofTable, hlogging]
  constructor
  · intro hgiven
    obtain ⟨url, hurl⟩ := Option.ne_none_iff_exists'.1 (mt Option.map_eq_none_iff.2 hgiven)
    rw [hsome url hurl]
    exact ⟨⟨f.withUrl url, l.finish⟩, by rw [← hfinish]; rfl, datum_eq hf hl hurl⟩
  · intro hgiven
    rcases hnone (Option.map_eq_none_iff.1 hgiven) with hread | hread
    · rw [hread]
      exact ⟨"database", by decide, rfl⟩
    · rw [hread]
      exact ⟨"database.url", by decide, rfl⟩

end All

end ResourceCatalog.Config
