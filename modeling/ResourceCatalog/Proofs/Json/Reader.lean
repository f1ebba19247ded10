import ResourceCatalog.Proofs.Json.Text

/-!
# Reading back

A reader reads back what is written when the trees of the written values are whole and it reads each of them as what
its text shows, and recovers it when that is what was written. Lists, texts with a syntax of their own and the fields
of records keep to this.
-/

namespace ResourceCatalog.Json

variable {α β σ : Type}

/-- Reading makes `back a` of the text of `a`. -/
structure ReadsBack (read : Reader α) (write : α → Value) (back : α → α) : Prop where
  isWhole : ∀ a, (write a).tree.isWhole = true
  read_tree : ∀ a, read (write a).tree = .ok (back a)

/-- Reading gives back whatever was written. -/
abbrev Recovers (read : Reader α) (write : α → Value) : Prop := ReadsBack read write fun a => a

namespace ReadsBack

section Text

variable {read : Reader α} {write : α → Value} {back : α → α} (h : ReadsBack read write back) (a : α)
include h

theorem decode_compact : decode read (write a).compact = .ok (back a) :=
  (Json.decode_compact read (h.isWhole a)).trans (h.read_tree a)

theorem decode_pretty : decode read (write a).pretty = .ok (back a) :=
  (Json.decode_pretty read (h.isWhole a)).trans (h.read_tree a)

end Text

theorem parsed {expected : String} {parse : String → Except String α} {text : α → String} {back : α → α}
    (h : ∀ a, parse (text a) = .ok (back a)) :
    ReadsBack (readParsed expected parse) (fun a => .text (text a)) back := by
  refine ⟨fun _ => rfl, fun a => ?_⟩
  show readParsed expected parse (.text (some (text a))) = .ok (back a)
  simp only [readParsed, readText, bind, Except.bind, h]

section List

variable {read : Reader α} {write : α → Value} {back : α → α} (h : ReadsBack read write back)
include h

theorem wholeItems_map (items : List α) : wholeItems (itemTrees (items.map write)) = true := by
  induction items with
  | nil => rfl
  | cons a items ih => rw [List.map_cons, itemTrees, wholeItems, h.isWhole, ih, Bool.true_and]

theorem list : ReadsBack (readList read) (fun items => .list (items.map write)) (List.map back) := by
  refine ⟨h.wholeItems_map, fun items => ?_⟩
  show (itemTrees (items.map write)).mapM read = .ok (items.map back)
  induction items with
  | nil => rfl
  | cons a items ih =>
    rw [List.map_cons, itemTrees, List.mapM_cons, h.read_tree, ih]
    rfl

end List

end ReadsBack

namespace Recovers

theorem string : Recovers readString .text := ⟨fun _ => rfl, fun _ => rfl⟩

theorem choice {choices : List (String × α)} {name : α → String}
    (h : ∀ a, choices.lookup (name a) = some a) : Recovers (readChoice choices) fun a => .text (name a) := by
  refine ⟨fun _ => rfl, fun a => ?_⟩
  show chosen choices (name a) = .ok a
  rw [chosen, h]

/-- A type with one field is written as its field. -/
theorem wrapped {read : Reader α} {write : α → Value} (h : Recovers read write) {wrap : α → β} {field : β → α}
    (hfield : ∀ b, wrap (field b) = b) :
    Recovers (fun tree => (read tree).map wrap) fun b => write (field b) := by
  refine ⟨fun b => h.isWhole (field b), fun b => ?_⟩
  show (read (write (field b)).tree).map wrap = .ok b
  rw [h.read_tree]
  exact congrArg Except.ok (hfield b)

end Recovers

theorem readInteger_ofInt {least bound : Int} {n : Nat} (expected : String) (h : least ≤ n ∧ n < bound)
    (hword : n < Word.size64) : readInteger least bound expected (.number (.ofInt n)) = .ok (n : Int) := by
  rw [readInteger]
  simp only [value?_ofInt hword]
  rw [if_pos h]

theorem readNatural_ofInt {bound n : Nat} (expected : String) (hn : n < bound) (hword : n < Word.size64) :
    readNatural bound expected (.number (.ofInt n)) = .ok n := by
  rw [readNatural, readInteger_ofInt expected (by omega) hword]
  rfl

theorem readWord64_ofInt {n : Nat} (h : n < Word.size64) : readWord64 (.number (.ofInt n)) = .ok n :=
  readNatural_ofInt "u64" h h

/-- A value that is not written as `null` is read where there may be none. -/
theorem Recovers.readOptional_tree {read : Reader α} {write : α → Value} (h : Recovers read write) {a : α}
    (hnull : (write a).tree ≠ .null) : readOptional read (write a).tree = .ok (some a) := by
  unfold readOptional
  split
  · exact absurd ‹_› hnull
  · rw [h.read_tree]
    rfl

/-! ## Records -/

/-- A field that has not been read yet takes the value that its reader gives back. -/
theorem readField_none {name : String} {read : Reader α} {put : α → σ} {tree : Tree} {a : α}
    (h : read tree = .ok a) : readField name none read put tree = .ok (put a) := by
  rw [readField, h]
  rfl

/-- The member of a field is read into what has been read before. -/
theorem foldMembers_field {take : σ → String → Option (Reader σ)} {s : σ} {name : String} {read : Reader α}
    {put : α → σ} {value : Value} {a : α} {rest : List (String × Value)}
    (htake : take s name = some (readField name none read put)) (hread : read value.tree = .ok a) :
    foldMembers take s (memberTrees ((name, value) :: rest)) = foldMembers take (put a) (memberTrees rest) := by
  rw [memberTrees, foldMembers, htake]
  show (readField name none read put value.tree >>= fun s' => foldMembers take s' (memberTrees rest)) = _
  rw [readField_none hread]
  rfl

end ResourceCatalog.Json
