import ResourceCatalog.Proofs.Store.Lifetime
import ResourceCatalog.Proofs.Store.Save

/-!
# Saves in any order

Resources that are new to a store and to each other, by identifier and by natural key, can be saved in any order.
Each save leaves the others possible, and what is stored keeps no trace of the order.
-/

namespace ResourceCatalog

namespace Rows

/-- The resources pass their checks, and their identifiers and natural keys are free and different. -/
structure Admits (rows : Rows) (rs : List Resource) : Prop where
  checked : ∀ r ∈ rs, r.check = .ok ()
  id_free : ∀ r ∈ rs, rows.get? r.id = none
  id_ne : rs.Pairwise fun a b => a.id ≠ b.id
  key_free : ∀ r ∈ rs, ∀ old ∈ rows.toList, old.naturalKey ≠ r.naturalKey
  key_ne : rs.Pairwise fun a b => a.naturalKey ≠ b.naturalKey

namespace Admits

variable {rows : Rows} {rs order : List Resource} {r : Resource}

theorem perm (h : rows.Admits rs) (hperm : order.Perm rs) : rows.Admits order where
  checked r hr := h.checked r (hperm.mem_iff.1 hr)
  id_free r hr := h.id_free r (hperm.mem_iff.1 hr)
  id_ne := hperm.symm.pairwise h.id_ne Ne.symm
  key_free r hr := h.key_free r (hperm.mem_iff.1 hr)
  key_ne := hperm.symm.pairwise h.key_ne Ne.symm

theorem tail (h : rows.Admits (r :: rs)) : (rows.insert r.id r).Admits rs := by
  obtain ⟨hid, hids⟩ := List.pairwise_cons.1 h.id_ne
  obtain ⟨hkey, hkeys⟩ := List.pairwise_cons.1 h.key_ne
  have hnew : rows.get? r.id = none := h.id_free r List.mem_cons_self
  refine ⟨fun a ha => h.checked a (List.mem_cons_of_mem r ha), ?_, hids, ?_, hkeys⟩
  · intro a ha
    rw [get?_insert, if_neg (hid a ha).symm]
    exact h.id_free a (List.mem_cons_of_mem r ha)
  · -- The rows are the old ones and `r`.
    intro a ha old hold
    rcases (mem_toList_insert_of_get?_eq_none hnew).1 hold with hr | hrows
    · rw [hr]
      exact hkey a ha
    · exact h.key_free a (List.mem_cons_of_mem r ha) old hrows

end Admits

def insertAll (rows : Rows) (rs : List Resource) : Rows := rs.foldl (fun rows r => rows.insert r.id r) rows

section InsertAll

variable {rows : Rows} {rs order : List Resource} {r : Resource} {id : ResourceId}

theorem insertAll_cons (rows : Rows) (r : Resource) (rs : List Resource) :
    rows.insertAll (r :: rs) = (rows.insert r.id r).insertAll rs := rfl

theorem get?_insertAll_of_notMem (hnot : ∀ r ∈ rs, r.id ≠ id) : (rows.insertAll rs).get? id = rows.get? id := by
  induction rs generalizing rows with
  | nil => rfl
  | cons r rs ih =>
    rw [insertAll_cons, ih fun a ha => hnot a (List.mem_cons_of_mem r ha), get?_insert,
      if_neg (hnot r List.mem_cons_self).symm]

theorem get?_insertAll_of_mem (hids : rs.Pairwise fun a b => a.id ≠ b.id) (hr : r ∈ rs) :
    (rows.insertAll rs).get? r.id = some r := by
  induction rs generalizing rows with
  | nil => cases hr
  | cons first rs ih =>
    obtain ⟨hfirst, hrest⟩ := List.pairwise_cons.1 hids
    rw [insertAll_cons]
    rcases List.mem_cons.1 hr with heq | hr
    · -- Nothing that is inserted later has this identifier.
      rw [heq, get?_insertAll_of_notMem fun a ha => (hfirst a ha).symm, get?_insert, if_pos rfl]
    · exact ih hrest hr

theorem insertAll_perm (hids : rs.Pairwise fun a b => a.id ≠ b.id) (hperm : order.Perm rs) (rows : Rows) :
    rows.insertAll order = rows.insertAll rs := by
  -- It is enough to exchange two neighbours, and these have different identifiers or are the same.
  apply hperm.foldl_eq'
  intro a ha b hb rows
  by_cases hab : a = b
  · rw [hab]
  · exact insert_comm (Resource.id_ne_of_pairwise hids (hperm.mem_iff.1 ha) (hperm.mem_iff.1 hb) hab) rows a b

end InsertAll

end Rows

namespace Store

variable {s : Store} {rs : List Resource} {r : Resource}

theorem save_of_admits (ha : s.available = true) (h : s.rows.Admits (r :: rs)) :
    s.save r = .ok (r, { s with rows := s.rows.insert r.id r }) := by
  have hstored : stored s.rows r = r := by rw [stored, h.id_free r List.mem_cons_self]
  have hclash : clash? s.rows r = none :=
    clash?_eq_none_iff.2 fun other hother _ => h.key_free r List.mem_cons_self other hother
  exact save_eq_ok_iff.2 ⟨h.checked r List.mem_cons_self, ha, hclash, hstored.symm, rfl⟩

-- All saves of a run succeed if the first store admits the resources.
theorem run_saves (ha : s.available = true) (h : s.rows.Admits rs) :
    s.history (rs.map .save) = rs.map (fun r => (.save r, .resource r)) ∧
      s.run (rs.map .save) = { s with rows := s.rows.insertAll rs } := by
  induction rs generalizing s with
  | nil => exact ⟨rfl, rfl⟩
  | cons r rs ih =>
    -- The first save leaves a store that can be reached and admits the rest.
    have hstep := step_save_of_ok (save_of_admits ha h)
    obtain ⟨hhistory, hrun⟩ := @ih { s with rows := s.rows.insert r.id r } ha h.tail
    constructor
    · rw [List.map_cons, history, hstep, hhistory, List.map_cons]
    · rw [List.map_cons, run, hstep, hrun, Rows.insertAll_cons]

/-- Resources whose identifiers and natural keys are free and different can be saved in any order. Every save
succeeds and answers with the resource as it was given, and all orders lead to one store, so that whatever is asked
of it, every page of every list included, has one answer. Each of the resources is found in it, and under any other
identifier what was there before. -/
theorem saves_commute (ha : s.available = true) (h : s.rows.Admits rs) :
    ∃ t : Store, (∀ r ∈ rs, t.find r.id = .ok r) ∧ (∀ id, (∀ r ∈ rs, r.id ≠ id) → s.SameAt t id) ∧
      ∀ order : List Resource, order.Perm rs →
        s.history (order.map .save) = order.map (fun r => (.save r, .resource r)) ∧
        s.run (order.map .save) = t := by
  refine ⟨{ s with rows := s.rows.insertAll rs }, ?_, ?_, ?_⟩
  · intro r hr
    exact find_of_get?_eq_some ha (Rows.get?_insertAll_of_mem h.id_ne hr)
  · intro id hnot
    apply sameAt_of_get?
    · rfl
    · exact Rows.get?_insertAll_of_notMem hnot
  · intro order hperm
    obtain ⟨hhistory, hrun⟩ := run_saves ha (h.perm hperm)
    rw [Rows.insertAll_perm h.id_ne hperm] at hrun
    exact ⟨hhistory, hrun⟩

-- The same title three times, so that sorting by it leaves the identifiers to decide.
def sampleNew : List Resource :=
  [sampleRow 6 7 "Same" "p", sampleRow 5 7 "Same" "q", sampleRow 8 0 "Same" "c"]

theorem saves_commute_sample :
    sample.available = true ∧ sample.rows.Admits sampleNew ∧
    ∃ t : Store, t.find ⟨⟨5⟩⟩ = .ok (sampleRow 5 7 "Same" "q") ∧ sample.SameAt t ⟨⟨3⟩⟩ ∧
      sample.run (sampleNew.map .save) = t ∧ sample.run (sampleNew.reverse.map .save) = t := by
  have ha : sample.available = true := by decide
  have hadmits : sample.rows.Admits sampleNew := by
    have hgiven : ∀ r ∈ sampleNew, ¬(Resource.Unspecified r.title ∨ Resource.Unspecified r.resourceKey) := by
      decide
    have hchecked : ∀ r ∈ sampleNew, r.check = .ok () := fun r hr =>
      Resource.check_eq_ok_iff_not_unspecified.2 (hgiven r hr)
    exact ⟨hchecked, by decide, by decide, by decide, by decide⟩
  obtain ⟨t, hfind, hsame, horders⟩ := saves_commute ha hadmits
  refine ⟨ha, hadmits, t, hfind (sampleRow 5 7 "Same" "q") (by decide), hsame _ (by decide), ?_, ?_⟩
  · exact (horders sampleNew (.refl _)).2
  · exact (horders sampleNew.reverse sampleNew.reverse_perm).2

end Store

end ResourceCatalog
