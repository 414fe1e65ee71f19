import StructuralDiff.Proofs.Diff.Registry
import StructuralDiff.Proofs.View.Changes

/-!
# Looking up symbols and views

A registered comparison is asked for a symbol by the id that it has on either side. The side is found by looking
into the old snapshot first, the other node by the counterpart, and the risk by whichever id it is listed under;
both sides of a symbol get the same answer all the same.

* `Registry.registers_run`: everything in a registry is the comparison of two snapshots, whatever was done to the
  registry before.
* `Delta.joined_cases`: a node has no counterpart, or is one of two nodes that correspond.
* `DiffRecord.symbol?_removed`, `symbol?_added`, `symbol?_joined`: the answers in the three cases.
* `DiffRecord.view?_wellFormed`: views are looked up without fail.
* `Registry.symbol?_answers`: all answers of a registered comparison.
-/

namespace StructuralDiff

/-! ### Registered comparisons -/

/-- The record is that of the comparison of two snapshots. -/
def DiffRecord.Compares (record : DiffRecord) : Prop :=
  ∃ (request : DiffRequest) (old new : Snapshot), record = request.record (.between old new)

namespace Registry

variable {σ : Type} {store : Store σ} {config : AnalysisConfig}

/-- What can happen to a registry and its store; others may use the store as well. -/
inductive Action (σ : Type) where
  | create (request : DiffRequest)
  | remove (id : String)
  | useStore (change : σ → σ)

/-- The registry after an action. -/
def perform (store : Store σ) (config : AnalysisConfig) (registry : Registry σ) : Action σ → Registry σ
  | .create request => (create store config request registry).2
  | .remove id => registry.remove id
  | .useStore change => { registry with state := change registry.state }

/-- The registry after some actions. -/
def run (store : Store σ) (config : AnalysisConfig) (registry : Registry σ) (actions : List (Action σ)) :
    Registry σ :=
  actions.foldl (perform store config) registry

/-- What is registered are comparisons of two snapshots. -/
def Registers (registry : Registry σ) : Prop :=
  ∀ id record, registry.diff? id = some record → record.Compares

theorem registers_ofState (state : σ) : (ofState state).Registers :=
  fun _ _ => nofun

/-- **An action registers nothing but comparisons.** -/
theorem registers_perform {registry : Registry σ} (h : registry.Registers) (action : Action σ) :
    (perform store config registry action).Registers := by
  intro id record hrecord
  cases action with
  | create request =>
    rw [perform, create_eq] at hrecord
    dsimp only at hrecord
    split at hrecord
    · -- a comparison without changes is not registered
      exact h id record hrecord
    · rw [diff?, Table.get?_insert] at hrecord
      split at hrecord
      · exact ⟨request, _, _, (Option.some.inj hrecord).symm⟩
      · exact h id record hrecord
  | remove removed =>
    rw [perform, remove, diff?, Table.get?_erase] at hrecord
    split at hrecord
    · cases hrecord
    · exact h id record hrecord
  | useStore change => exact h id record hrecord

/-- **Nor does any number of actions.** -/
theorem registers_run {registry : Registry σ} (h : registry.Registers) (actions : List (Action σ)) :
    (run store config registry actions).Registers := by
  induction actions generalizing registry with
  | nil => exact h
  | cons action rest ih => exact ih (registers_perform h action)

end Registry

/-! ### The two nodes of a symbol -/

theorem Node.kind_eq_of_key_eq {a b : Node} (h : a.key = b.key) : a.kind = b.kind := by
  unfold key at h
  split at h
  · next ha =>
    split at h
    · next hb => rw [beq_iff_eq.1 ha, beq_iff_eq.1 hb]
    · cases h
  · split at h
    · cases h
    · exact (NodeKey.symbol.inj h).2

namespace Delta

/-- Two nodes that correspond, with their common outcome. -/
structure Joins (delta : Delta) (o n : Node) (status : Status) : Prop where
  old_mem : o ∈ delta.old.nodes
  new_mem : n ∈ delta.new.nodes
  old_counterpart : delta.counterpart? o.id = some n.id
  new_counterpart : delta.counterpart? n.id = some o.id
  old_status : delta.nodeStatus? o.id = some status
  new_status : delta.nodeStatus? n.id = some status
  kept : status = .unchanged ∨ status = .modified
  kind : o.kind = n.kind

section

variable {old new : Snapshot} (h : Separate old new)

include h

/-- No two nodes of the snapshots have one id. -/
theorem Separate.eq_of_id_eq {a b : Node} (ha : a ∈ old.nodes ++ new.nodes) (hb : b ∈ old.nodes ++ new.nodes)
    (hid : a.id = b.id) : a = b := by
  rcases List.mem_append.1 ha with ha | ha <;> rcases List.mem_append.1 hb with hb | hb
  · exact h.old_valid.eq_of_id_eq ha hb hid
  · exact absurd hid (h.id_ne ha hb)
  · exact absurd hid.symm (h.id_ne hb ha)
  · exact h.new_valid.eq_of_id_eq ha hb hid

/-- What was added or removed has no counterpart. -/
theorem counterpart?_eq_none {id : String} {status : Status}
    (hstatus : (between old new).nodeStatus? id = some status) (hgone : status = .added ∨ status = .removed) :
    (between old new).counterpart? id = none := by
  have hkeys : id ∉ (between old new).counterparts.keys := by
    rw [mem_counterparts_keys h, hstatus]
    rcases hgone with rfl | rfl <;> simp
  rw [Table.mem_keys, Option.not_isSome_iff_eq_none] at hkeys
  exact hkeys

/-- The members of a pair correspond. -/
theorem joins_of_mem_pairs {key : NodeKey} {pair : Node × Node}
    (hpair : pair ∈ (pairingUnder old new key).unchanged ++ (pairingUnder old new key).modified) :
    ∃ status, (between old new).Joins pair.1 pair.2 status := by
  obtain ⟨⟨hold, hkey⟩, hnew, hkey'⟩ := sides_of_mem_pairs hpair
  obtain ⟨hcounterpart, hcounterpart'⟩ := counterpart?_of_mem_pairs h hpair
  have hkind := Node.kind_eq_of_key_eq (hkey.trans hkey'.symm)
  rcases List.mem_append.1 hpair with hunchanged | hmodified
  · obtain ⟨hstatus, hstatus'⟩ := nodeStatus?_of_unchanged h hunchanged
    exact ⟨.unchanged, hold, hnew, hcounterpart, hcounterpart', hstatus, hstatus', .inl rfl, hkind⟩
  · obtain ⟨hstatus, hstatus'⟩ := nodeStatus?_of_modified h hmodified
    exact ⟨.modified, hold, hnew, hcounterpart, hcounterpart', hstatus, hstatus', .inr rfl, hkind⟩

/-- **A node was removed, was added, or is one of two that correspond.** -/
theorem joined_cases {id : String} (hid : id ∈ old.nodeIds ∨ id ∈ new.nodeIds) :
    (∃ o ∈ old.nodes, o.id = id ∧ (between old new).nodeStatus? id = some .removed) ∨
    (∃ n ∈ new.nodes, n.id = id ∧ (between old new).nodeStatus? id = some .added) ∨
    ∃ o n status, (between old new).Joins o n status ∧ (o.id = id ∨ n.id = id) := by
  -- Every node has an outcome, and the outcome says which of the three cases it is.
  rw [← mem_nodeStatus_keys, Table.mem_keys, Option.isSome_iff_exists] at hid
  obtain ⟨status, hstatus⟩ := hid
  have hjoined (hkept : (between old new).nodeStatus? id = some .unchanged ∨
      (between old new).nodeStatus? id = some .modified) :
      ∃ o n status, (between old new).Joins o n status ∧ (o.id = id ∨ n.id = id) := by
    obtain ⟨key, pair, hpair, hid⟩ := exists_pair_of_nodeStatus? h hkept
    obtain ⟨status, hjoins⟩ := joins_of_mem_pairs h hpair
    exact ⟨pair.1, pair.2, status, hjoins, hid.imp Eq.symm Eq.symm⟩
  cases status with
  | removed =>
    obtain ⟨o, ho, rfl⟩ := List.mem_map.1 (removed_mem h hstatus)
    exact .inl ⟨o, ho, rfl, hstatus⟩
  | added =>
    obtain ⟨n, hn, rfl⟩ := List.mem_map.1 (added_mem h hstatus)
    exact .inr (.inl ⟨n, hn, rfl, hstatus⟩)
  | unchanged => exact .inr (.inr (hjoined (.inl hstatus)))
  | modified => exact .inr (.inr (hjoined (.inr hstatus)))

/-! ### Listed symbols -/

/-- A node of the old snapshot is listed when it is a symbol that was removed. -/
theorem exists_risk_old {o : Node} (ho : o ∈ old.nodes) :
    (∃ risk ∈ (between old new).symbolRisks, risk.id = o.id) ↔
      o.kind.isSymbol = true ∧ (between old new).nodeStatus? o.id = some .removed := by
  constructor
  · rintro ⟨risk, hrisk, hid⟩
    rcases (mem_symbolRisks_between h).1 hrisk with ⟨node, hnode, hsymbol, hremoved, rfl⟩ |
      ⟨node, hnode, -, status, -, -, rfl⟩
    · obtain rfl := h.old_valid.eq_of_id_eq hnode ho hid
      exact ⟨hsymbol, hremoved⟩
    · -- a node of the new snapshot has another id
      exact absurd hid.symm (h.id_ne ho hnode)
  · rintro ⟨hsymbol, hremoved⟩
    exact ⟨_, (mem_symbolRisks_between h).2 (.inl ⟨o, ho, hsymbol, hremoved, rfl⟩), rfl⟩

/-- A node of the new snapshot is listed when it is a symbol that was added or modified. -/
theorem exists_risk_new {n : Node} (hn : n ∈ new.nodes) :
    (∃ risk ∈ (between old new).symbolRisks, risk.id = n.id) ↔
      n.kind.isSymbol = true ∧ ((between old new).nodeStatus? n.id = some .added ∨
        (between old new).nodeStatus? n.id = some .modified) := by
  constructor
  · rintro ⟨risk, hrisk, hid⟩
    rcases (mem_symbolRisks_between h).1 hrisk with ⟨node, hnode, -, -, rfl⟩ |
      ⟨node, hnode, hsymbol, status, hchanged, hstatus, rfl⟩
    · exact absurd hid (h.id_ne hnode hn)
    · obtain rfl := h.new_valid.eq_of_id_eq hnode hn hid
      rcases hchanged with rfl | rfl
      · exact ⟨hsymbol, .inl hstatus⟩
      · exact ⟨hsymbol, .inr hstatus⟩
  · rintro ⟨hsymbol, hstatus | hstatus⟩
    · exact ⟨_, (mem_symbolRisks_between h).2 (.inr ⟨n, hn, hsymbol, _, .inl rfl, hstatus, rfl⟩), rfl⟩
    · exact ⟨_, (mem_symbolRisks_between h).2 (.inr ⟨n, hn, hsymbol, _, .inr rfl, hstatus, rfl⟩), rfl⟩

end

end Delta

/-! ### Answers -/

namespace DiffRecord

/-- The details of a symbol with an outcome that has the two nodes. -/
def detail (record : DiffRecord) (status : Status) (old new : Option Node) : SymbolDetail :=
  let ids := (old.toList ++ new.toList).map (·.id)
  { status, old, new
    risk := record.symbols.find? fun risk => ids.contains risk.id
    patch := (new.or old).bind fun node => record.patches.get? node.filePath }

theorem symbol?_eq (record : DiffRecord) (id : String) : record.symbol? id =
    (record.delta.nodeStatus? id).map fun status =>
      record.detail status (record.sides id).1 (record.sides id).2 :=
  rfl

/-- A risk is found when it is listed for one of the two nodes. -/
theorem isSome_risk {record : DiffRecord} {status : Status} {old new : Option Node} :
    (record.detail status old new).risk.isSome ↔
      ∃ node ∈ old.toList ++ new.toList, ∃ risk ∈ record.symbols, risk.id = node.id := by
  simp only [detail, List.find?_isSome, List.contains_iff_mem, List.mem_map]
  constructor
  · rintro ⟨risk, hrisk, node, hnode, hid⟩
    exact ⟨node, hnode, risk, hrisk, hid.symm⟩
  · rintro ⟨node, hnode, risk, hrisk, hid⟩
    exact ⟨risk, hrisk, node, hnode, hid.symm⟩

theorem of_risk {record : DiffRecord} {status : Status} {old new : Option Node} {risk : SymbolRisk}
    (h : (record.detail status old new).risk = some risk) :
    risk ∈ record.symbols ∧ ∃ node ∈ old.toList ++ new.toList, risk.id = node.id := by
  refine ⟨List.mem_of_find?_eq_some h, ?_⟩
  have hid := List.find?_some h
  rw [List.contains_iff_mem, List.mem_map] at hid
  exact hid.imp fun node hnode => ⟨hnode.1, hnode.2.symm⟩

theorem symbols_record (request : DiffRequest) (delta : Delta) : (request.record delta).symbols = delta.symbolRisks :=
  rfl

/-- What a record answers about the symbol with an id. -/
structure Answers (record : DiffRecord) (id : String) (detail : SymbolDetail) : Prop where
  /-- The outcome is that of the comparison. -/
  status : record.delta.nodeStatus? id = some detail.status
  /-- There is an old node unless the symbol was added. -/
  old_isSome : detail.old.isSome ↔ detail.status ≠ .added
  /-- There is a new node unless the symbol was removed. -/
  new_isSome : detail.new.isSome ↔ detail.status ≠ .removed
  /-- The old node is a node of the old snapshot, the one with the id or its counterpart. -/
  old_mem : ∀ node, detail.old = some node → node ∈ record.delta.old.nodes ∧
    (node.id = id ∨ record.delta.counterpart? id = some node.id)
  /-- The new node is a node of the new snapshot, the one with the id or its counterpart. -/
  new_mem : ∀ node, detail.new = some node → node ∈ record.delta.new.nodes ∧
    (node.id = id ∨ record.delta.counterpart? id = some node.id)
  /-- There is a risk when the symbol has changed and is one. -/
  risk_isSome : ∀ node ∈ record.delta.old.nodes ++ record.delta.new.nodes, node.id = id →
    (detail.risk.isSome ↔ detail.status.isChanged = true ∧ node.kind.isSymbol = true)
  /-- The risk is that of the node with the id or of its counterpart. -/
  risk_mem : ∀ risk, detail.risk = some risk → risk ∈ record.symbols ∧
    (risk.id = id ∨ record.delta.counterpart? id = some risk.id)
  /-- The counterpart has the same details. -/
  counterpart : ∀ other, record.delta.counterpart? id = some other → record.symbol? other = some detail

section

variable {request : DiffRequest} {old new : Snapshot} (h : Delta.Separate old new)

include h

theorem sides_old {o : Node} (ho : o ∈ old.nodes) : (request.record (.between old new)).sides o.id =
    (some o, ((Delta.between old new).counterpart? o.id).bind new.firstNode?) := by
  have hfound : (request.record (.between old new)).delta.old.firstNode? o.id = some o :=
    (h.old_valid.firstNode?_eq o.id).trans (h.old_valid.node?_eq_some_iff.2 ⟨ho, rfl⟩)
  simp only [sides, hfound]
  rfl

theorem sides_new {n : Node} (hn : n ∈ new.nodes) : (request.record (.between old new)).sides n.id =
    (((Delta.between old new).counterpart? n.id).bind old.firstNode?, some n) := by
  have hfound : (request.record (.between old new)).delta.new.firstNode? n.id = some n :=
    (h.new_valid.firstNode?_eq n.id).trans (h.new_valid.node?_eq_some_iff.2 ⟨hn, rfl⟩)
  have hnone : (request.record (.between old new)).delta.old.firstNode? n.id = none :=
    List.find?_eq_none.2 fun node hnode hid => h.id_ne hnode hn (beq_iff_eq.1 hid)
  simp only [sides, hnone, hfound]
  rfl

theorem symbol?_removed {o : Node} (ho : o ∈ old.nodes)
    (hstatus : (Delta.between old new).nodeStatus? o.id = some .removed) :
    (request.record (.between old new)).symbol? o.id =
      some ((request.record (.between old new)).detail .removed (some o) none) := by
  have hnone := Delta.counterpart?_eq_none h hstatus (.inr rfl)
  rw [symbol?_eq, sides_old h ho, hnone]
  exact congrArg (Option.map _) hstatus

theorem symbol?_added {n : Node} (hn : n ∈ new.nodes)
    (hstatus : (Delta.between old new).nodeStatus? n.id = some .added) :
    (request.record (.between old new)).symbol? n.id =
      some ((request.record (.between old new)).detail .added none (some n)) := by
  have hnone := Delta.counterpart?_eq_none h hstatus (.inl rfl)
  rw [symbol?_eq, sides_new h hn, hnone]
  exact congrArg (Option.map _) hstatus

/-- **Two nodes that correspond have the same details.** -/
theorem symbol?_joined (request : DiffRequest) {o n : Node} {status : Status}
    (hjoins : (Delta.between old new).Joins o n status) :
    (request.record (.between old new)).symbol? o.id =
        some ((request.record (.between old new)).detail status (some o) (some n)) ∧
      (request.record (.between old new)).symbol? n.id =
        some ((request.record (.between old new)).detail status (some o) (some n)) := by
  have hold : old.firstNode? o.id = some o :=
    (h.old_valid.firstNode?_eq o.id).trans (h.old_valid.node?_eq_some_iff.2 ⟨hjoins.old_mem, rfl⟩)
  have hnew : new.firstNode? n.id = some n :=
    (h.new_valid.firstNode?_eq n.id).trans (h.new_valid.node?_eq_some_iff.2 ⟨hjoins.new_mem, rfl⟩)
  constructor
  · rw [symbol?_eq, sides_old h hjoins.old_mem, hjoins.old_counterpart, Option.bind_some, hnew]
    exact congrArg (Option.map _) hjoins.old_status
  · rw [symbol?_eq, sides_new h hjoins.new_mem, hjoins.new_counterpart, Option.bind_some, hold]
    exact congrArg (Option.map _) hjoins.new_status

/-- Details are an answer about a node when they hold it or its counterpart on each side, and the risk is right. -/
theorem answers_detail {node : Node} (hnode : node ∈ old.nodes ++ new.nodes) {status : Status}
    (hstatus : (Delta.between old new).nodeStatus? node.id = some status) {o n : Option Node}
    (hsides : (o.isSome ↔ status ≠ .added) ∧ (n.isSome ↔ status ≠ .removed))
    (hold : ∀ a, o = some a → a ∈ old.nodes ∧
      (a.id = node.id ∨ (Delta.between old new).counterpart? node.id = some a.id))
    (hnew : ∀ b, n = some b → b ∈ new.nodes ∧
      (b.id = node.id ∨ (Delta.between old new).counterpart? node.id = some b.id))
    (hrisk : ((request.record (.between old new)).detail status o n).risk.isSome ↔
      status.isChanged = true ∧ node.kind.isSymbol = true)
    (hother : ∀ other, (Delta.between old new).counterpart? node.id = some other →
      (request.record (.between old new)).symbol? other =
        some ((request.record (.between old new)).detail status o n)) :
    (request.record (.between old new)).Answers node.id
      ((request.record (.between old new)).detail status o n) where
  status := hstatus
  old_isSome := hsides.1
  new_isSome := hsides.2
  old_mem := hold
  new_mem := hnew
  risk_isSome := by
    intro same hsame hid
    obtain rfl := h.eq_of_id_eq hsame hnode hid
    exact hrisk
  risk_mem := by
    intro risk hfound
    obtain ⟨hmem, found, hside, hid⟩ := of_risk hfound
    rw [hid]
    rcases List.mem_append.1 hside with ha | hb
    · exact ⟨hmem, (hold found (Option.mem_toList.1 ha)).2⟩
    · exact ⟨hmem, (hnew found (Option.mem_toList.1 hb)).2⟩
  counterpart := hother

/-- **The answer about a symbol that was removed.** -/
theorem answers_removed {o : Node} (ho : o ∈ old.nodes)
    (hstatus : (Delta.between old new).nodeStatus? o.id = some .removed) :
    (request.record (.between old new)).Answers o.id
      ((request.record (.between old new)).detail .removed (some o) none) := by
  have hnone := Delta.counterpart?_eq_none h hstatus (.inr rfl)
  refine answers_detail h (List.mem_append_left _ ho) hstatus (by simp) ?_ ?_ ?_ ?_
  · rintro a ⟨⟩
    exact ⟨ho, .inl rfl⟩
  · rintro b ⟨⟩
  · rw [isSome_risk, symbols_record]
    simp only [Option.toList_some, Option.toList_none, List.append_nil, List.mem_singleton, exists_eq_left]
    rw [Delta.exists_risk_old h ho, and_comm, hstatus]
    exact and_congr_left fun _ => ⟨fun _ => rfl, fun _ => rfl⟩
  · intro other hother
    cases hnone.symm.trans hother

/-- **The answer about a symbol that was added.** -/
theorem answers_added {n : Node} (hn : n ∈ new.nodes)
    (hstatus : (Delta.between old new).nodeStatus? n.id = some .added) :
    (request.record (.between old new)).Answers n.id
      ((request.record (.between old new)).detail .added none (some n)) := by
  have hnone := Delta.counterpart?_eq_none h hstatus (.inl rfl)
  refine answers_detail h (List.mem_append_right _ hn) hstatus (by simp) ?_ ?_ ?_ ?_
  · rintro a ⟨⟩
  · rintro b ⟨⟩
    exact ⟨hn, .inl rfl⟩
  · rw [isSome_risk, symbols_record]
    simp only [Option.toList_some, Option.toList_none, List.nil_append, List.mem_singleton, exists_eq_left]
    rw [Delta.exists_risk_new h hn, and_comm, hstatus]
    exact and_congr_left fun _ => ⟨fun _ => rfl, fun _ => .inl rfl⟩
  · intro other hother
    cases hnone.symm.trans hother

/-- The risk of two nodes that correspond is listed under the new one, if at all. -/
theorem isSome_risk_joined (request : DiffRequest) {o n : Node} {status : Status}
    (hjoins : (Delta.between old new).Joins o n status) :
    ((request.record (.between old new)).detail status (some o) (some n)).risk.isSome ↔
      status.isChanged = true ∧ n.kind.isSymbol = true := by
  rw [isSome_risk, symbols_record]
  simp only [Option.toList_some, List.singleton_append, List.mem_cons, List.not_mem_nil, or_false,
    exists_eq_or_imp, exists_eq_left]
  -- The old node would be listed if it had been removed, which it was not.
  rw [Delta.exists_risk_old h hjoins.old_mem, Delta.exists_risk_new h hjoins.new_mem, hjoins.old_status,
    hjoins.new_status]
  rcases hjoins.kept with rfl | rfl <;> simp [Status.isChanged]

/-- **The answer about a symbol that is on both sides**, by either id. -/
theorem answers_joined {o n : Node} {status : Status} (hjoins : (Delta.between old new).Joins o n status) :
    (request.record (.between old new)).Answers o.id
        ((request.record (.between old new)).detail status (some o) (some n)) ∧
      (request.record (.between old new)).Answers n.id
        ((request.record (.between old new)).detail status (some o) (some n)) := by
  obtain ⟨hsymbol, hsymbol'⟩ := symbol?_joined h request hjoins
  have hrisk := isSome_risk_joined h request hjoins
  have hsides : ((some o).isSome ↔ status ≠ .added) ∧ ((some n).isSome ↔ status ≠ .removed) := by
    rcases hjoins.kept with rfl | rfl <;> simp
  constructor
  · refine answers_detail h (List.mem_append_left _ hjoins.old_mem) hjoins.old_status hsides ?_ ?_ ?_ ?_
    · rintro a ⟨⟩
      exact ⟨hjoins.old_mem, .inl rfl⟩
    · rintro b ⟨⟩
      exact ⟨hjoins.new_mem, .inr hjoins.old_counterpart⟩
    · rw [hjoins.kind]
      exact hrisk
    · intro other hother
      rw [← Option.some.inj (hjoins.old_counterpart.symm.trans hother)]
      exact hsymbol'
  · refine answers_detail h (List.mem_append_right _ hjoins.new_mem) hjoins.new_status hsides ?_ ?_ hrisk ?_
    · rintro a ⟨⟩
      exact ⟨hjoins.old_mem, .inr hjoins.new_counterpart⟩
    · rintro b ⟨⟩
      exact ⟨hjoins.new_mem, .inl rfl⟩
    · intro other hother
      rw [← Option.some.inj (hjoins.new_counterpart.symm.trans hother)]
      exact hsymbol

/-- Every node has an answer. -/
theorem exists_answers {id : String} (hid : id ∈ old.nodeIds ∨ id ∈ new.nodeIds) :
    ∃ detail, (request.record (.between old new)).symbol? id = some detail ∧
      (request.record (.between old new)).Answers id detail := by
  rcases Delta.joined_cases h hid with ⟨o, ho, rfl, hstatus⟩ | ⟨n, hn, rfl, hstatus⟩ |
    ⟨o, n, status, hjoins, rfl | rfl⟩
  · exact ⟨_, symbol?_removed h ho hstatus, answers_removed h ho hstatus⟩
  · exact ⟨_, symbol?_added h hn hstatus, answers_added h hn hstatus⟩
  · exact ⟨_, (symbol?_joined h request hjoins).1, (answers_joined h hjoins).1⟩
  · exact ⟨_, (symbol?_joined h request hjoins).2, (answers_joined h hjoins).2⟩

end

/-- Nothing else has one. -/
theorem symbol?_eq_none {request : DiffRequest} {old new : Snapshot} {id : String} (hold : id ∉ old.nodeIds)
    (hnew : id ∉ new.nodeIds) : (request.record (.between old new)).symbol? id = none := by
  have hstatus : (Delta.between old new).nodeStatus? id = none := by
    rw [← Option.not_isSome_iff_eq_none, Delta.nodeStatus?, ← Table.mem_keys, Delta.mem_nodeStatus_keys]
    exact not_or.2 ⟨hold, hnew⟩
  rw [symbol?_eq]
  exact congrArg (Option.map _) hstatus

/-! ### Views -/

/-- **Every view that is asked for is there and well formed**, also with changes only. -/
theorem view?_wellFormed (request : DiffRequest) {old new : Snapshot} (hold : old.Valid) (hnew : new.Valid)
    (hplain : ∀ id ∈ old.nodeIds ++ new.nodeIds, Text.beginsWith "group:" id = false) (perspective : Perspective)
    (changesOnly : Bool) : ∃ pair,
      (request.record (.between old new)).view? perspective changesOnly = some pair ∧
        pair.old.WellFormed (.between old new) ∧ pair.new.WellFormed (.between old new) := by
  have hview : (request.record (.between old new)).view? perspective changesOnly =
      ((Delta.between old new).views.lookup perspective).map fun pair =>
        if changesOnly then pair.changesOnly else pair :=
    rfl
  obtain ⟨hwellOld, hwellNew⟩ := Delta.wellFormed_viewPair hold hnew hplain perspective
  rw [hview, Delta.lookup_views]
  cases changesOnly with
  | false => exact ⟨_, rfl, hwellOld, hwellNew⟩
  | true => exact ⟨_, rfl, hwellOld.changesOnly, hwellNew.changesOnly⟩

end DiffRecord

/-! ### Answers of a registry -/

namespace Registry

variable {σ : Type} {store : Store σ} {config : AnalysisConfig} {request : DiffRequest} {registry : Registry σ}

/-- The details of a symbol of a registered comparison. -/
def symbol? (registry : Registry σ) (id nodeId : String) : Option SymbolDetail :=
  (registry.diff? id).bind (·.symbol? nodeId)

/-- **All answers about symbols.** Whatever has been done to a registry, a comparison that is in it answers about
every node of its snapshots, the same for both sides of a symbol, and about no other id. -/
theorem symbol?_answers {state : σ} {actions : List (Action σ)} {id : String} {record : DiffRecord}
    (hdiff : (run store config (ofState state) actions).diff? id = some record)
    (hold : record.delta.old.validate = .ok ()) (hnew : record.delta.new.validate = .ok ())
    (hdisjoint : List.Disjoint record.delta.old.nodeIds record.delta.new.nodeIds) :
    (∀ nodeId, nodeId ∈ record.delta.old.nodeIds ∨ nodeId ∈ record.delta.new.nodeIds →
      ∃ detail, (run store config (ofState state) actions).symbol? id nodeId = some detail ∧
        record.Answers nodeId detail) ∧
    ∀ nodeId, nodeId ∉ record.delta.old.nodeIds → nodeId ∉ record.delta.new.nodeIds →
      (run store config (ofState state) actions).symbol? id nodeId = none := by
  obtain ⟨request, old, new, rfl⟩ := registers_run (registers_ofState state) actions id record hdiff
  have h : Delta.Separate old new :=
    ⟨Snapshot.validate_eq_ok_iff.1 hold, Snapshot.validate_eq_ok_iff.1 hnew, hdisjoint⟩
  have hsymbol (nodeId : String) : (run store config (ofState state) actions).symbol? id nodeId =
      (request.record (.between old new)).symbol? nodeId := by
    rw [symbol?, hdiff, Option.bind_some]
  constructor
  · intro nodeId hnode
    rw [hsymbol]
    exact DiffRecord.exists_answers h hnode
  · intro nodeId hnotOld hnotNew
    rw [hsymbol]
    exact DiffRecord.symbol?_eq_none hnotOld hnotNew

/-- The comparison of two modules that share an import is registered and answers. -/
theorem symbol?_answers_sharedImport :
    let registry := run Store.memory {} (ofState .empty) [.create sharedImport]
    let record := sharedImport.record (sharedImport.analyzedDelta {})
    (∀ nodeId, nodeId ∈ record.delta.old.nodeIds ∨ nodeId ∈ record.delta.new.nodeIds →
      ∃ detail, registry.symbol? sharedImport.id nodeId = some detail ∧ record.Answers nodeId detail) ∧
    ∀ nodeId, nodeId ∉ record.delta.old.nodeIds → nodeId ∉ record.delta.new.nodeIds →
      registry.symbol? sharedImport.id nodeId = none := by
  have hcreate : (create Store.memory {} sharedImport (ofState .empty)).1 = .ok sharedImport.id :=
    create_of_changedAt changedAt_sharedImport
  exact symbol?_answers (diff?_create hcreate) (Snapshot.validate_eq_ok_iff.2 separate_sharedImport.old_valid)
    (Snapshot.validate_eq_ok_iff.2 separate_sharedImport.new_valid) separate_sharedImport.disjoint

end Registry

end StructuralDiff
