import ResourceCatalog.Proofs.Database.Replies
import ResourceCatalog.Proofs.Database.Window
import ResourceCatalog.Proofs.Page.Link
import ResourceCatalog.Proofs.Resource.Sorting
import ResourceCatalog.Proofs.Store.Listing

/-!
# Lists of both catalogs

A database that has the rows of a store in memory, and answers statements by what they say, gives the same list
as the store. The rows have one arrangement in the order that the statement asks for, so both cut the same page.
-/

namespace ResourceCatalog.Database

variable {σ : Type}

/-- The reply has the resources of `M`, sorted and cut as the end of the statement's text says: as many of them
are dropped as one of its values says, and no more are kept than another one says. -/
def Statement.Fetches (s : Statement) (M : Set Resource) (reply : List Row) : Prop :=
  ∀ w, s.window? = some w → ∃ sorted : List Resource, sorted.Nodup ∧ (∀ r, r ∈ sorted ↔ r ∈ M) ∧
    (sorted.Pairwise fun a b => (w.order a b).isLE = true) ∧
    List.Forall₂ (fun row r => row.resource = .ok r) reply ((sorted.drop w.offset.toNat).take w.limit.toNat)

/-- The texts around the two statements of a list. -/
def transactionTexts : List String :=
  ["BEGIN", "SET TRANSACTION ISOLATION LEVEL REPEATABLE READ, READ ONLY", "COMMIT"]

/-- The database gives out connections and runs transactions, and it answers the statements of a list from
`rows`, whatever it was asked before. -/
structure Answers (answer : σ → (request : Request) → Except Error request.Reply × σ) (rows : Rows)
    (scope : ListScope) (tenant : TenantId) (link : PageLink) (o : ResourceOrdering) : Prop where
  connects : ∀ c, (answer c .acquire).1 = .ok ()
  runs : ∀ c, ∀ text ∈ transactionTexts, ∃ affected, (answer c (.command ⟨text, []⟩)).1 = .ok affected
  counts : ∀ c, (answer c (.numbers (countStatement scope tenant link))).1 =
    .ok [some (rows.wanted scope tenant link.search).ncard]
  fetches : ∀ c, ∃ reply, (answer c (.rows (pageStatement scope tenant o link))).1 = .ok reply ∧
    (pageStatement scope tenant o link).Fetches (rows.wanted scope tenant link.search) reply

variable {answer : σ → (request : Request) → Except Error request.Reply × σ} {scope : ListScope}
  {tenant : TenantId} {link : PageLink} {o : ResourceOrdering}

/-- Rows that are sorted and cut as the statement for a page says are the link's page of their arrangement. -/
theorem Statement.Fetches.mapM_resource {rows : Rows} {M : Set Resource} {reply : List Row} {l : List Resource}
    (h : (pageStatement scope tenant o link).Fetches M reply) (hrows : rows.Consistent)
    (hM : ∀ r ∈ M, r ∈ rows.toList) (hl : o.Arranges M l) :
    reply.mapM Row.resource = .ok (Store.pageOf link l) := by
  obtain ⟨sorted, hnodup, hmem, hle, hreply⟩ := h _ (window?_pageStatement scope tenant o link)
  -- Different rows have different identifiers, so no two of them take the same place.
  have hid : sorted.Pairwise fun a b => a.id ≠ b.id := by
    refine hnodup.imp_of_mem ?_
    intro a b ha hb hne
    exact Resource.id_ne_of_pairwise hrows.pairwise_id_ne (hM a ((hmem a).1 ha)) (hM b ((hmem b).1 hb)) hne
  rw [← (o.arranges_of_isLE hmem hle hid).unique hl]
  exact mapM_resource_eq_ok_iff.2 hreply

/-- A list is answered with the page of the arrangement. -/
theorem run_list {rows : Rows} {l : List Resource} (h : Answers answer rows scope tenant link o)
    (ho : ResourceOrdering.ofLink link = .ok o) (hrows : rows.Consistent)
    (hl : o.Arranges (rows.wanted scope tenant link.search) l) (c : σ) :
    (Program.run answer c (list scope tenant link).run).1 = .ok (.ofLink (Store.pageOf link l) l.length link) := by
  have hruns := fun c text ht => (h.runs c text ht).choose_spec
  -- Nothing is refused, and the transaction begins.
  rw [list, resolved_bind ho, Query.onPool_bind, Query.run_request_bind_of_ok (h.connects _),
    Query.run_request_bind_of_ok (hruns _ _ (by decide)), Query.run_request_bind_of_ok (hruns _ _ (by decide))]
  extract_lets
  -- The total is the length of the arrangement.
  rw [Query.run_request_bind_of_ok (h.counts _), Query.first_cons_bind]
  have hcount : single (some ((rows.wanted scope tenant link.search).ncard : Int)) = .ok (l.length : Int) := by
    rw [hl.length_eq_ncard]
    rfl
  rw [hcount, Query.decoded_ok_bind]
  -- The rows are the page of the arrangement, and the transaction ends.
  obtain ⟨reply, hreply, hfetches⟩ := h.fetches (answer (answer (answer (answer c .acquire).2 _).2 _).2 _).2
  rw [Query.run_request_bind_of_ok hreply, hfetches.mapM_resource hrows (fun r hr => hr.1) hl, Query.decoded_ok_bind,
    Query.run_request_bind_of_ok (hruns _ _ (by decide))]
  extract_lets
  rw [if_neg (by omega)]
  rfl

/-- A database that has the rows of a store answers its list queries like the store: the same page, or for a sort
that is refused the same failure, before anything is asked of it. -/
theorem list_agrees {s : Store} (hs : s.Reachable) (scope : ListScope) (tenant : TenantId) (link : PageLink) :
    (∀ o, ResourceOrdering.ofLink link = .ok o → s.available = true →
      ∃ p, s.list scope tenant link = .ok p ∧
        ∀ {σ : Type} (answer : σ → (request : Request) → Except Error request.Reply × σ) (c : σ),
          Answers answer s.rows scope tenant link o →
            (Program.run answer c (list scope tenant link).run).1 = .ok p) ∧
    ∀ e, ResourceOrdering.ofLink link = .error e →
      e.kind = .validation ∧ s.list scope tenant link = .error e ∧
        (list scope tenant link).run = .done (.error e) := by
  constructor
  · intro o ho ha
    refine ⟨s.listed o scope tenant link, Store.list_eq_listed ha ho, ?_⟩
    intro σ answer c h
    exact run_list h ho hs.consistent (Store.sort_selected_arranges hs.consistent o scope tenant link) c
  · intro e he
    refine ⟨ResourceOrdering.kind_of_ofLink_eq_error he, ?_, ?_⟩
    · rw [Store.list, he]
      rfl
    · rw [list, he, Query.ofOutcome_error_bind]

/-! ## A sample -/

/-- A database that always gives the same answers: three rows match, and one of them is on the page. -/
def sampleAnswer (_ : Unit) : (request : Request) → Except Error request.Reply × Unit
  | .acquire => (.ok (), ())
  | .command _ => (.ok 0, ())
  | .numbers _ => (.ok [some 3], ())
  | .truths _ => (.ok [], ())
  | .rows _ => (.ok [.ofResource (Store.sampleRow 2 0 "Common" "b")], ())
  | .migrations => (.ok ⟨none, []⟩, ())

/-- What tenant 7 sees of the sample, by descending title. -/
def sampleList : List Resource :=
  [Store.sampleRow 3 7 "Own" "a", Store.sampleRow 4 7 "More" "c", Store.sampleRow 2 0 "Common" "b"]

theorem sampleList_arranges : ResourceOrdering.Arranges ⟨.title, .desc⟩
    (Store.sample.rows.wanted .visible ⟨⟨7⟩⟩ Store.sampleLink.search) sampleList := by
  have hperm : sampleList.Perm (Store.selected Store.sample.rows .visible ⟨⟨7⟩⟩ Store.sampleLink) := by
    decide +kernel
  exact ⟨fun r => hperm.mem_iff.trans Store.mem_selected_iff, by decide +kernel⟩

theorem answers_sample :
    Answers sampleAnswer Store.sample.rows .visible ⟨⟨7⟩⟩ Store.sampleLink ⟨.title, .desc⟩ := by
  have hl := sampleList_arranges
  refine ⟨fun _ => rfl, fun _ _ _ => ⟨0, rfl⟩, fun _ => ?_, fun _ => ⟨_, rfl, ?_⟩⟩
  · rw [← hl.length_eq_ncard]
    rfl
  · intro w hw
    rw [window?_pageStatement] at hw
    cases hw
    refine ⟨sampleList, hl.nodup, hl.mem_iff, hl.ascending.imp ?_, .cons rfl .nil⟩
    intro a b hlt
    exact congrArg Ordering.isLE hlt

/-- The second page of two rows that tenant 7 sees, by descending title, from both catalogs. -/
theorem list_agrees_sample :
    Store.sample.Reachable ∧
      Answers sampleAnswer Store.sample.rows .visible ⟨⟨7⟩⟩ Store.sampleLink ⟨.title, .desc⟩ ∧
      ∃ p, Store.sample.list .visible ⟨⟨7⟩⟩ Store.sampleLink = .ok p ∧
        (Program.run sampleAnswer () (list .visible ⟨⟨7⟩⟩ Store.sampleLink).run).1 = .ok p := by
  have hreach : Store.sample.Reachable := ⟨Store.sampleRun, rfl⟩
  have havail : Store.sample.available = true := by decide
  have horder : ResourceOrdering.ofLink Store.sampleLink = .ok ⟨.title, .desc⟩ := by rfl
  obtain ⟨p, hp, hagrees⟩ := (list_agrees hreach .visible ⟨⟨7⟩⟩ Store.sampleLink).1 _ horder havail
  exact ⟨hreach, answers_sample, p, hp, hagrees sampleAnswer () answers_sample⟩

end ResourceCatalog.Database
