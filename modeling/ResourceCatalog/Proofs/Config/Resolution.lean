import ResourceCatalog.Config.Load
import ResourceCatalog.Failure
import ResourceCatalog.Proofs.Config.Reading

/-!
# Settings from several sources

Settings are loaded just if some source gives the address of the database. Each of them is then what the source
that comes last among those that give it says, or the default of the setting if none does.
-/

namespace ResourceCatalog.Config

/-- The sources from what variables give, which wins over the others, down to the base file. -/
def byPrecedence (base : Layer) (overlay : Option Layer) (given : Layer) : List Layer :=
  given :: overlay.toList ++ [base]

/-- The settings are loaded just if some source gives the address of the database. Then each of them is what the first
source says that gives it, whatever else that source or one before it gives, and its default if none does. Otherwise
there is no configuration. -/
structure Resolved (sources : List Layer) (loaded : Except Error Settings) : Prop where
  exists_ok_iff : (∃ c, loaded = .ok c) ↔ ∃ layer ∈ sources, (Setting.url.given? layer).isSome
  datum_eq : ∀ c, loaded = .ok c → ∀ s : Setting, some (c.datum s) = (sources.findSome? s.given?).or s.default?
  missing : (∀ layer ∈ sources, Setting.url.given? layer = none) →
    ∃ field ∈ ["database", "database.url"], loaded = .error (.missing field) ∧
      (Failure.ofConfig (.missing field)).kind = .configuration

theorem resolved_ofLayers {sources : List Layer} (hsources : ∀ layer ∈ sources, layer.WellFormed) :
    Resolved sources (Settings.ofLayers sources.reverse) := by
  have hholds : ∀ s : Setting, s.Holds (merged sources.reverse) (sources.findSome? s.given?) := by
    intro s
    have h := s.holds_merged fun layer hlayer => hsources layer (List.mem_reverse.1 hlayer)
    rwa [List.reverse_reverse] at h
  obtain ⟨hsome, hnone⟩ := ofValue_eq hholds
  cases hurl : sources.findSome? Setting.url.given? with
  | none =>
    obtain ⟨field, hmem, hfield⟩ := hnone hurl
    have hall := List.findSome?_eq_none_iff.1 hurl
    rw [Settings.ofLayers, hfield]
    refine ⟨⟨nofun, fun ⟨layer, hlayer, hgiven⟩ => ?_⟩, nofun, fun _ => ⟨field, hmem, rfl, rfl⟩⟩
    rw [hall layer hlayer] at hgiven
    cases hgiven
  | some d =>
    obtain ⟨c, hc, hdatum⟩ := hsome (hurl ▸ Option.some_ne_none d)
    obtain ⟨layer, hlayer, hgiven⟩ := List.exists_of_findSome?_eq_some hurl
    rw [Settings.ofLayers, hc]
    refine ⟨⟨fun _ => ⟨layer, hlayer, ?_⟩, fun _ => ⟨c, rfl⟩⟩, fun c' hc' => ?_, fun hall => ?_⟩
    · rw [hgiven]
      rfl
    · cases hc'
      exact hdatum
    · rw [hall layer hlayer] at hgiven
      cases hgiven

section Load

variable {files : String → Option String} {vars : List (String × String)} {path : String}
  {environment : Option String} {base : Layer} {overlay : Option Layer}

theorem load_eq (hbase : fileLayer files path = .ok base)
    (hoverlay : environment.mapM (fun name => fileLayer files (overlayName name)) = .ok overlay) :
    Settings.load files vars path environment =
      Settings.ofLayers (byPrecedence base overlay (variablesLayer vars)).reverse := by
  cases environment with
  | none =>
    cases hoverlay
    rw [Settings.load, fileNames, Option.map_none, Option.toList_none, List.mapM_cons, hbase]
    rfl
  | some name =>
    rw [Option.mapM_some] at hoverlay
    cases hname : fileLayer files (overlayName name) with
    | error e =>
      rw [hname] at hoverlay
      cases hoverlay
    | ok layer =>
      rw [hname] at hoverlay
      cases hoverlay
      rw [Settings.load, fileNames, Option.map_some, Option.toList_some, List.mapM_cons, hbase, List.mapM_cons, hname]
      rfl

end Load

/-! ## A sample -/

def sampleFiles (path : String) : Option String :=
  [("config/default.toml",
      "[database]\nurl = \"postgres://db\"\nmax_connections = 8\nmin_connections = 2\n[logging]\nlevel = \"warn\"\n"),
    ("config/test.json", "\x7b\"database\": \x7b\"max_connections\": 4\x7d, \"logging\": \x7b\x7d\x7d")].lookup path

def sampleVariables : List (String × String) :=
  [("RESDAO__DATABASE__MIN_CONNECTIONS", "3"), ("RESDAO__LOGGING__FORMAT", "json")]

def sampleBase : Layer := (fileLayer sampleFiles "config/default").toOption.getD []

def sampleOverlay : Layer := (fileLayer sampleFiles "config/test").toOption.getD []

def sampleSources : List Layer := byPrecedence sampleBase (some sampleOverlay) (variablesLayer sampleVariables)

theorem eq_ok_getD {layer : Except Error Layer} (h : layer.toOption.isSome) : layer = .ok (layer.toOption.getD []) := by
  cases layer with
  | ok layer => rfl
  | error e => cases h

def sampleSettings : Settings where
  database := { url := "postgres://db", maxConnections := 4, minConnections := 3 }
  logging := { level := "warn", format := "json" }

end ResourceCatalog.Config
