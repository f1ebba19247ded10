import ResourceCatalog.Proofs.Command.LongArguments
import ResourceCatalog.Proofs.Id.Reading
import ResourceCatalog.Proofs.Text.Digits

/-!
# Command lines and what they ask for

The arguments of a list and of a save are written as long arguments, one for each value and one for each flag that is
set. In whatever order they stand behind their command, they are read as what was written, but for a direction without
a property to sort by.
-/

namespace ResourceCatalog

/-! ## Values -/

namespace Decimal

theorem natural?_toDigits (n : Nat) : natural? (Nat.toDigits 10 n) = some n := by
  have hdigits : (Nat.toDigits 10 n).all Char.isDigit = true :=
    List.all_eq_true.2 fun c hc => Text.isDigit_of_mem_toDigits hc
  rw [natural?, if_pos ⟨Nat.toDigits_ne_nil, hdigits⟩, Text.digitsFrom_eq_ofDigitChars, Nat.ofDigitChars_ten_toDigits]

theorem splitSign_toDigits (n : Nat) : splitSign (Nat.toDigits 10 n) = (false, Nat.toDigits 10 n) := by
  unfold splitSign
  split
  · rename_i rest hn
    have hmem : '-' ∈ Nat.toDigits 10 n := hn ▸ List.mem_cons_self
    exact absurd (Text.isDigit_of_mem_toDigits hmem) (by decide)
  · rename_i rest hn
    have hmem : '+' ∈ Nat.toDigits 10 n := hn ▸ List.mem_cons_self
    exact absurd (Text.isDigit_of_mem_toDigits hmem) (by decide)
  · rfl

theorem integer?_toString (n : Int) : integer? (toString n).toList = some n := by
  cases n with
  | ofNat m =>
    have htext : (toString (Int.ofNat m)).toList = Nat.toDigits 10 m := by simp [toString, Int.repr]
    rw [htext, integer?, splitSign_toDigits]
    simp only [natural?_toDigits]
    rfl
  | negSucc m =>
    have htext : (toString (Int.negSucc m)).toList = '-' :: Nat.toDigits 10 (m + 1) := by simp [toString, Int.repr]
    rw [htext, integer?, splitSign]
    simp only [natural?_toDigits]
    rfl

end Decimal

theorem TenantId.parse_text (t : TenantId) : TenantId.parse t.text = .ok t :=
  congrArg (Except.map TenantId.mk) (Id.parseTrimmed_text "TenantId" t.uuid)

theorem ResourceId.parse_text (id : ResourceId) : ResourceId.parse id.text = .ok id :=
  congrArg (Except.map ResourceId.mk) (Id.parseTrimmed_text "ResourceId" id.uuid)

theorem ResourceType.parse_name (t : ResourceType) : ResourceType.parse t.name = .ok t := by
  cases t <;> rfl

namespace Command

theorem readTenant_text (t : TenantId) : readTenant t.text = .ok t := by
  rw [readTenant, TenantId.parse_text]
  rfl

theorem readId_text (id : ResourceId) : readId id.text = .ok id := by
  rw [readId, ResourceId.parse_text]
  rfl

theorem readType_name (t : ResourceType) : readType t.name = .ok t := by
  rw [readType, ResourceType.parse_name]
  rfl

theorem readInteger_toString {n : Int} (hn : Word.fitsSigned64 n = true) : readInteger (toString n) = .ok n := by
  rw [readInteger, Decimal.integer?_toString, Option.filter_some, if_pos hn]
  rfl

/-! ## Listing -/

/-- An argument of a list. -/
inductive ListItem where
  | tenant (t : TenantId)
  | ownOnly
  | pageSize (n : Int)
  | page (n : Int)
  | search (s : String)
  | sort (s : String)
  | desc
  | allPages

namespace ListItem

def entry : ListItem → Entry ListFields
  | tenant t => ⟨valueArgument "tenant" t.text, (·.tenant.isNone), ({ · with tenant := some t })⟩
  | ownOnly => ⟨"--" ++ "own-only", (!·.ownOnly), ({ · with ownOnly := true })⟩
  | pageSize n => ⟨valueArgument "page-size" (toString n), (·.pageSize.isNone), ({ · with pageSize := some n })⟩
  | page n => ⟨valueArgument "page" (toString n), (·.page.isNone), ({ · with page := some n })⟩
  | search s => ⟨valueArgument "search" s, (·.search.isNone), ({ · with search := some s })⟩
  | sort s => ⟨valueArgument "sort" s, (·.sort.isNone), ({ · with sort := some s })⟩
  | desc => ⟨"--" ++ "desc", (!·.desc), ({ · with desc := true })⟩
  | allPages => ⟨"--" ++ "all-pages", (!·.allPages), ({ · with allPages := true })⟩

/-- The numbers fit 64 bits. -/
def Fits : ListItem → Prop
  | pageSize n | page n => Word.fitsSigned64 n = true
  | _ => True

theorem apart (i j : ListItem) : i.entry.Apart j.entry := by
  -- Of two items for one field the second finds it taken.
  cases i <;> cases j <;> simp_all [entry, Entry.Apart]

theorem sets {i : ListItem} (h : i.Fits) : listLevel.Sets i.entry.argument i.entry.put := by
  cases i with
  | tenant t => exact Level.sets_value "tenant" (by decide) rfl rfl fun _ => setOnce_of_ok (readTenant_text t)
  | ownOnly => exact Level.sets_flag "own-only" (by decide) (by decide) rfl rfl fun _ => raiseOnce_eq
  | pageSize n => exact Level.sets_value "page-size" (by decide) rfl rfl fun _ => setOnce_of_ok (readInteger_toString h)
  | page n => exact Level.sets_value "page" (by decide) rfl rfl fun _ => setOnce_of_ok (readInteger_toString h)
  | search s => exact Level.sets_value "search" (by decide) rfl rfl fun _ => setOnce_of_ok rfl
  | sort s => exact Level.sets_value "sort" (by decide) rfl rfl fun _ => setOnce_of_ok rfl
  | desc => exact Level.sets_flag "desc" (by decide) (by decide) rfl rfl fun _ => raiseOnce_eq
  | allPages => exact Level.sets_flag "all-pages" (by decide) (by decide) rfl rfl fun _ => raiseOnce_eq

end ListItem

namespace ListArgs

/-- What the arguments of the list are, one by one. -/
def items (a : ListArgs) : List ListItem :=
  [.tenant a.tenant, .pageSize a.pageSize, .page a.page] ++ (a.search.map .search).toList ++
    (a.sort.map .sort).toList ++ (if a.ownOnly then [.ownOnly] else []) ++ (if a.desc then [.desc] else []) ++
    if a.allPages then [.allPages] else []

/-- What has been read behind all arguments of the list. -/
def fields (a : ListArgs) : ListFields :=
  { tenant := some a.tenant, ownOnly := a.ownOnly, pageSize := some a.pageSize, page := some a.page,
    search := a.search, sort := a.sort, desc := a.desc, allPages := a.allPages }

/-- The numbers of the page fit 64 bits. -/
def Fits (a : ListArgs) : Prop := Word.fitsSigned64 a.pageSize = true ∧ Word.fitsSigned64 a.page = true

instance (a : ListArgs) : Decidable a.Fits := inferInstanceAs (Decidable (_ ∧ _))

theorem arguments_eq (a : ListArgs) : a.arguments = a.items.map fun i => i.entry.argument := by
  obtain ⟨tenant, ownOnly, pageSize, page, search, sort, desc, allPages⟩ := a
  cases search <;> cases sort <;> cases ownOnly <;> cases desc <;> cases allPages <;> rfl

theorem foldlM_items (a : ListArgs) : a.items.foldlM (fun f i => i.entry.put f) {} = .ok a.fields := by
  obtain ⟨tenant, ownOnly, pageSize, page, search, sort, desc, allPages⟩ := a
  cases search <;> cases sort <;> cases ownOnly <;> cases desc <;> cases allPages <;> rfl

theorem items_fit {a : ListArgs} (h : a.Fits) : ∀ i ∈ a.items, i.Fits := by
  obtain ⟨tenant, ownOnly, pageSize, page, search, sort, desc, allPages⟩ := a
  cases search <;> cases sort <;> cases ownOnly <;> cases desc <;> cases allPages <;>
    simp_all [items, ListItem.Fits, Fits]

theorem parse_of_perm {a : ListArgs} (h : a.Fits) {args : List String} (hperm : args.Perm a.arguments) :
    ListArgs.parse args = a.fields.finish := by
  rw [arguments_eq] at hperm
  rw [ListArgs.parse, listLevel.readLast_of_perm rfl (fun i hi => ListItem.sets (items_fit h i hi))
    (fun i j => (i.apart j).swaps) a.foldlM_items hperm]
  rfl

theorem finish_fields (a : ListArgs) :
    a.fields.finish = if a.desc ∧ a.sort = none then .error .missingArgument else .ok a := rfl

end ListArgs

/-! ## Saving -/

/-- An argument of a save. -/
inductive SaveItem where
  | id (id : ResourceId)
  | tenant (t : TenantId)
  | title (s : String)
  | type (t : ResourceType)
  | key (s : String)

namespace SaveItem

def entry : SaveItem → Entry SaveFields
  | id r => ⟨valueArgument "id" r.text, (·.id.isNone), ({ · with id := some r })⟩
  | tenant t => ⟨valueArgument "tenant" t.text, (·.tenant.isNone), ({ · with tenant := some t })⟩
  | title s => ⟨valueArgument "title" s, (·.title.isNone), ({ · with title := some s })⟩
  | type t => ⟨valueArgument "type" t.name, (·.resourceType.isNone), ({ · with resourceType := some t })⟩
  | key s => ⟨valueArgument "key" s, (·.key.isNone), ({ · with key := some s })⟩

theorem apart (i j : SaveItem) : i.entry.Apart j.entry := by
  cases i <;> cases j <;> simp_all [entry, Entry.Apart]

theorem sets (i : SaveItem) : saveLevel.Sets i.entry.argument i.entry.put := by
  cases i with
  | id r => exact Level.sets_value "id" (by decide) rfl rfl fun _ => setOnce_of_ok (readId_text r)
  | tenant t => exact Level.sets_value "tenant" (by decide) rfl rfl fun _ => setOnce_of_ok (readTenant_text t)
  | title s => exact Level.sets_value "title" (by decide) rfl rfl fun _ => setOnce_of_ok rfl
  | type t => exact Level.sets_value "type" (by decide) rfl rfl fun _ => setOnce_of_ok (readType_name t)
  | key s => exact Level.sets_value "key" (by decide) rfl rfl fun _ => setOnce_of_ok rfl

end SaveItem

namespace SaveArgs

/-- What the arguments of the save are, one by one. -/
def items (a : SaveArgs) : List SaveItem :=
  (a.id.map .id).toList ++ [.tenant a.tenant, .title a.title, .type a.resourceType, .key a.key]

/-- What has been read behind all arguments of the save. -/
def fields (a : SaveArgs) : SaveFields :=
  { id := a.id, tenant := some a.tenant, title := some a.title, resourceType := some a.resourceType,
    key := some a.key }

theorem arguments_eq (a : SaveArgs) : a.arguments = a.items.map fun i => i.entry.argument := by
  obtain ⟨id, tenant, title, resourceType, key⟩ := a
  cases id <;> rfl

theorem foldlM_items (a : SaveArgs) : a.items.foldlM (fun f i => i.entry.put f) {} = .ok a.fields := by
  obtain ⟨id, tenant, title, resourceType, key⟩ := a
  cases id <;> rfl

theorem finish_fields (a : SaveArgs) : a.fields.finish = .ok a := rfl

theorem parse_of_perm {a : SaveArgs} {args : List String} (hperm : args.Perm a.arguments) :
    SaveArgs.parse args = .ok a := by
  rw [arguments_eq] at hperm
  rw [SaveArgs.parse, saveLevel.readLast_of_perm rfl (fun i _ => i.sets) (fun i j => (i.apart j).swaps)
    a.foldlM_items hperm]
  exact a.finish_fields

end SaveArgs

/-! ## Whole command lines -/

section Whole

variable {name : String} (args : List String)

theorem Level.readWith_command {σ α : Type} {level : Level σ} (h : level.commands.contains name = true) (state : σ)
    (below : String → List String → Except Usage α) :
    level.readWith state below (name :: args) = (below name args).map fun a => (state, a) := by
  have hread : level.read { state } (name :: args) = .ok (.entered { state } name args) := by
    rw [read, h]
    rfl
  rw [readWith, hread]
  show (below name args).bind _ = _
  cases below name args <;> rfl

theorem Invocation.parse_resource (h : (commandsBelow ["resource"]).contains name = true) :
    Invocation.parse ("resource" :: name :: args) =
      (parseResourceCommand name args).map fun c => { action := .resource c } := by
  rw [Invocation.parse, Level.readWith_command _ rfl, parseAction, Level.readWith_command args h]
  cases parseResourceCommand name args <;> rfl

end Whole

/-- Command lines of lists and saves are read as what they were written for, whatever the order of their arguments;
a direction without a property to sort by is refused. -/
theorem arguments_read_back :
    (∀ a : ListArgs, a.Fits → ∀ args : List String, args.Perm a.arguments →
      Invocation.parse ("resource" :: "list" :: args) =
        if a.desc ∧ a.sort = none then .error .missingArgument else .ok { action := .resource (.list a) }) ∧
    ∀ a : SaveArgs, ∀ args : List String, args.Perm a.arguments →
      Invocation.parse ("resource" :: "save" :: args) = .ok { action := .resource (.save a) } := by
  refine ⟨fun a hfits args hperm => ?_, fun a args hperm => ?_⟩
  · rw [Invocation.parse_resource args (by decide), parseResourceCommand, ListArgs.parse_of_perm hfits hperm,
      ListArgs.finish_fields]
    split <;> rfl
  · rw [Invocation.parse_resource args (by decide), parseResourceCommand, SaveArgs.parse_of_perm hperm]
    rfl

/-! ## A sample -/

def sampleListArgs : ListArgs where
  tenant := ⟨⟨⟨0x5f0c1f8e8a434a3e9d8f1e2a4f6b7c8d, by decide⟩⟩⟩
  ownOnly := true
  pageSize := -9223372036854775808
  search := some "--page=1"
  sort := some ""
  desc := true

def sampleSaveArgs : SaveArgs where
  tenant := .system
  title := "  "
  resourceType := .pkcs12
  key := "-k=v"

/-- Texts that look like other arguments or are empty, the least number, and another order than that of the fields;
and the same without the property to sort by. -/
theorem arguments_read_back_sample :
    Invocation.parse ["resource", "list", "--desc", "--search=--page=1", "--page=0", "--sort=", "--own-only",
        "--page-size=-9223372036854775808", "--tenant=5f0c1f8e-8a43-4a3e-9d8f-1e2a4f6b7c8d"] =
      .ok { action := .resource (.list sampleListArgs) } ∧
    Invocation.parse ["resource", "list", "--desc", "--search=--page=1", "--page=0", "--own-only",
        "--page-size=-9223372036854775808", "--tenant=5f0c1f8e-8a43-4a3e-9d8f-1e2a4f6b7c8d"] =
      .error .missingArgument ∧
    Invocation.parse ["resource", "save", "--key=-k=v", "--type=PKCS_12", "--title=  ",
        "--tenant=00000000-0000-0000-0000-000000000000"] =
      .ok { action := .resource (.save sampleSaveArgs) } := by
  obtain ⟨hlist, hsave⟩ := arguments_read_back
  refine ⟨?_, ?_, ?_⟩
  · exact hlist sampleListArgs (by decide) _ (by decide +kernel)
  · exact hlist { sampleListArgs with sort := none } (by decide) _ (by decide +kernel)
  · exact hsave sampleSaveArgs _ (by decide +kernel)

end Command

end ResourceCatalog
