import ResourceCatalog.Resource.Basic

/-!
# Rows

The resources of a store by identifier, in ascending order of the identifiers. An identifier has at
most one row.
-/

namespace ResourceCatalog

/-- The place of an identifier among all identifiers. -/
def ResourceId.rank (id : ResourceId) : Nat := id.uuid.value.val

theorem ResourceId.rank_inj {a b : ResourceId} (h : a.rank = b.rank) : a = b := by
  obtain ⟨⟨a⟩⟩ := a
  obtain ⟨⟨b⟩⟩ := b
  simp only [ResourceId.rank] at h
  rw [Fin.ext h]

/-- Rows with the identifiers under which they are stored. -/
abbrev Entries := List (ResourceId × Resource)

namespace Entries

/-- Every identifier stands before all later ones. -/
def Ascending (l : Entries) : Prop := l.Pairwise fun a b => a.1.rank < b.1.rank

def insert (id : ResourceId) (row : Resource) : Entries → Entries
  | [] => [(id, row)]
  | entry :: rest =>
    if id.rank < entry.1.rank then (id, row) :: entry :: rest
    else if id = entry.1 then (id, row) :: rest
    else entry :: insert id row rest

theorem mem_of_mem_insert {id : ResourceId} {row : Resource} {l : Entries} {e : ResourceId × Resource}
    (h : e ∈ insert id row l) : e = (id, row) ∨ e ∈ l := by
  induction l with
  | nil => simpa [insert] using h
  | cons entry rest ih =>
    unfold insert at h
    split at h
    · simpa using h
    · split at h
      · rcases List.mem_cons.1 h with h | h
        · exact .inl h
        · exact .inr (List.mem_cons_of_mem _ h)
      · rcases List.mem_cons.1 h with h | h
        · exact .inr (h ▸ List.mem_cons_self)
        · exact (ih h).imp (fun x => x) (List.mem_cons_of_mem _)

theorem ascending_insert {id : ResourceId} {row : Resource} {l : Entries} (h : Ascending l) :
    Ascending (insert id row l) := by
  induction l with
  | nil => exact List.pairwise_singleton _ _
  | cons entry rest ih =>
    obtain ⟨hhead, htail⟩ := List.pairwise_cons.1 h
    unfold insert
    split
    · rename_i hlt
      refine List.pairwise_cons.2 ⟨fun e he => ?_, h⟩
      rcases List.mem_cons.1 he with he | he
      · exact he ▸ hlt
      · exact Nat.lt_trans hlt (hhead e he)
    · split
      · rename_i heq
        exact List.pairwise_cons.2 ⟨fun e he => heq ▸ hhead e he, htail⟩
      · rename_i hlt hne
        refine List.pairwise_cons.2 ⟨fun e he => ?_, ih htail⟩
        rcases mem_of_mem_insert he with he | he
        · subst he
          have hrank : entry.1.rank ≠ id.rank := fun h => hne (ResourceId.rank_inj h).symm
          show entry.1.rank < id.rank
          omega
        · exact hhead e he

end Entries

structure Rows where
  entries : Entries
  ascending : entries.Ascending
deriving DecidableEq

namespace Rows

def empty : Rows := ⟨[], List.Pairwise.nil⟩

/-- The stored resources in ascending order of their identifiers. -/
def toList (rows : Rows) : List Resource := rows.entries.map Prod.snd

def size (rows : Rows) : Nat := rows.entries.length

def get? (rows : Rows) (id : ResourceId) : Option Resource :=
  (rows.entries.find? fun e => e.1 = id).map Prod.snd

def contains (rows : Rows) (id : ResourceId) : Bool := (rows.get? id).isSome

/-- Stores a resource under an identifier, in place of the one that is there. -/
def insert (rows : Rows) (id : ResourceId) (row : Resource) : Rows :=
  ⟨rows.entries.insert id row, Entries.ascending_insert rows.ascending⟩

/-- Takes the identifier's row away. -/
def erase (rows : Rows) (id : ResourceId) : Rows :=
  ⟨rows.entries.filter fun e => e.1 ≠ id, List.Pairwise.filter _ rows.ascending⟩

end Rows

end ResourceCatalog
