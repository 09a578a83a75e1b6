import AlianStructure.Guarantees.ReconciliationStages

/-!
# Payments that are matched at once

Source: src/reconciliation/reconciliation.service.ts:80-126,177-204,279-329. The paid amount of an invoice is
what it was at the start with all the amounts that were matched, in the runs in which an invoice is saved only
while its stored paid amount is the one that the call has read.
-/
namespace AlianStructure.Guarantees.ConcurrentPayments
open Library.Interleaving Library.CallProtocol Library.KeyedTable
open Source Source.Reconciliation ReconciliationInTurn ReconciliationStages

/-- The matches with an invoice that the calls have saved. -/
def matched (calls : List Progress) (invoiceId : String) : List Match :=
  (calls.flatMap (·.made)).filter fun made => decide (made.invoiceId = invoiceId)

/-- What was paid to an invoice at the start; nothing, for an invoice that was created later. -/
def paidAtStart (start : Books) (invoiceId : String) : Nat :=
  ((start.invoices.findOne invoiceId).map (·.paidAmount.units)).getD 0

/-- Every invoice has what it had and all that was matched with it, and is paid, once a payment was matched,
exactly when that reaches the invoiced amount. -/
def Accounted (start now : Books) (calls : List Progress) : Prop :=
  ∀ invoice ∈ now.invoices.rows,
    invoice.paidAmount.units =
      paidAtStart start invoice.invoiceId + ((matched calls invoice.invoiceId).map (·.units)).sum ∧
    (matched calls invoice.invoiceId ≠ [] →
      (invoice.status = .paid ↔ invoice.expectedAmount.units ≤ invoice.paidAmount.units))

/-- The invoice that a call has read and will save. -/
def readInvoice : Stage → Option ReconciliationInvoice
  | .matching _ invoice _ => some invoice
  | _ => none

/-- When an invoice is saved, its stored paid amount is the one that was read. -/
def Undisturbed (books : Books) (calls : List Progress) (i : Nat) :
    ReconciliationOp → ReconciliationOutcome → Prop
  | .saveInvoice _, .done => ∀ progress ∈ calls[i]?, ∀ invoice ∈ readInvoice progress.stage,
      (books.invoices.findOne invoice.invoiceId).map (·.paidAmount) = some invoice.paidAmount
  | _, _ => True

instance (books : Books) (calls : List Progress) (i : Nat) (op : ReconciliationOp)
    (outcome : ReconciliationOutcome) : Decidable (Undisturbed books calls i op outcome) := by
  unfold Undisturbed
  split <;> infer_instance

/-- The condition on a run. -/
def undisturbed (config : ReconciliationConfig) :
    ChoiceCondition reconciling (reconciliationProcess config) :=
  fun v i op outcome => Undisturbed v.world.books v.phases i op outcome

instance (config : ReconciliationConfig) (v : View reconciling (reconciliationProcess config)) (i : Nat)
    (op : ReconciliationOp) (outcome : ReconciliationOutcome) :
    Decidable (undisturbed config v i op outcome) :=
  inferInstanceAs (Decidable (Undisturbed v.world.books v.phases i op outcome))

theorem perm_flatMap_set {α β : Type} {f : α → List β} {new : List β} {before after : α}
    (grown : f after = f before ++ new) :
    ∀ {calls : List α} {i : Nat}, calls[i]? = some before →
      ((calls.set i after).flatMap f).Perm (calls.flatMap f ++ new)
  | _ :: rest, 0, found => by
    cases found
    rw [List.set_cons_zero, List.flatMap_cons, List.flatMap_cons, grown, List.append_assoc, List.append_assoc]
    exact List.Perm.append_left _ List.perm_append_comm
  | first :: rest, i + 1, found => by
    rw [List.set_cons_succ, List.flatMap_cons, List.flatMap_cons, List.append_assoc]
    exact List.Perm.append_left _ (perm_flatMap_set grown found)

theorem respond_invoices {world changed : ReconciliationWorld} {op : ReconciliationOp}
    {outcome : ReconciliationOutcome} {result : Except Exception op.Reply}
    (responds : world.respond op outcome = some (changed, result)) : changed.books.invoices = world.books.invoices ∨
      (∃ invoice, op = .saveInvoice invoice ∧ outcome = .done ∧
        changed.books.invoices = world.books.invoices.save invoice) ∨
      ∃ invoice createdAt, op = .insertInvoice invoice ∧ world.books.invoices.findOne invoice.invoiceId = none ∧
        changed.books.invoices = world.books.invoices.save { invoice with createdAt } := by
  cases op with
  | saveInvoice invoice =>
    cases outcome <;> cases responds
    · exact Or.inr (Or.inl ⟨invoice, rfl, rfl, rfl⟩)
    · exact Or.inl rfl
  | insertInvoice invoice =>
    cases outcome with
    | done =>
      simp only [ReconciliationWorld.respond] at responds
      split at responds
      next => exact Or.inl (by cases responds; rfl)
      next fresh =>
        cases responds
        exact Or.inr (Or.inr ⟨invoice, world.now, rfl, by simpa using fresh, rfl⟩)
    | fails failure =>
      cases responds
      exact Or.inl rfl
    | _ => cases responds
  | insertTransaction transaction =>
    cases outcome with
    | done =>
      simp only [ReconciliationWorld.respond] at responds
      split at responds <;> cases responds <;> exact Or.inl rfl
    | fails failure =>
      cases responds
      exact Or.inl rfl
    | _ => cases responds
  | saveTransaction transaction => cases outcome <;> cases responds <;> exact Or.inl rfl
  | insertAudit audit => cases outcome <;> cases responds <;> exact Or.inl rfl
  | _ => exact Or.inl (congrArg Books.invoices (respond_reads rfl responds))

theorem environment_invoices {state : ReconciliationWorld × ReconciliationMemory} (change : ReconciliationChange) :
    (reconciliationEnvironment state change).1.books.invoices = state.1.books.invoices := by
  cases change with
  | payment record =>
    unfold reconciliationEnvironment
    dsimp only
    split <;> rfl
  | _ => rfl

/-- What holds of the invoices and the calls. -/
structure Kept (start : Books) (world : ReconciliationWorld) (calls : List Progress) : Prop where
  accounted : Accounted start world.books calls
  known : ∀ made ∈ calls.flatMap (·.made), ∃ invoice ∈ world.books.invoices.rows,
    invoice.invoiceId = made.invoiceId
  stays : ∀ invoice ∈ start.invoices.rows, ∃ later ∈ world.books.invoices.rows,
    later.invoiceId = invoice.invoiceId

section Steps
variable {start : Books} {world changed : ReconciliationWorld} {calls : List Progress} {i : Nat}
  {progress : Progress}

theorem saved_has {invoices : Table ReconciliationInvoice ReconciliationInvoice.invoiceId}
    {row : ReconciliationInvoice} (member : row ∈ invoices.rows) (saved : ReconciliationInvoice) :
    ∃ later ∈ (invoices.save saved).rows, later.invoiceId = row.invoiceId := by
  by_cases same : row.invoiceId = saved.invoiceId
  · exact ⟨saved, Table.mem_save.mpr (Or.inl rfl), same.symm⟩
  · exact ⟨row, Table.mem_save.mpr (Or.inr ⟨member, same⟩), rfl⟩

theorem Kept.same (kept : Kept start world calls) {other : List Progress}
    (made : (other.flatMap (·.made)).Perm (calls.flatMap (·.made)))
    (invoices : changed.books.invoices = world.books.invoices) : Kept start changed other := by
  have perm : ∀ id, (matched other id).Perm (matched calls id) := fun id => made.filter _
  refine ⟨fun invoice member => ?_, fun entry member => ?_, ?_⟩
  · obtain ⟨paid, status⟩ := kept.accounted invoice (invoices ▸ member)
    refine ⟨?_, fun some => status fun none => some ?_⟩
    · rw [paid, ((perm invoice.invoiceId).map (·.units)).sum_nat]
    · exact (none ▸ perm invoice.invoiceId).eq_nil
  · rw [invoices]
    exact kept.known entry (made.mem_iff.mp member)
  · rw [invoices]
    exact kept.stays

/-- An invoice that is saved while its stored paid amount is the one that was read. -/
theorem Kept.saves (kept : Kept start world calls) {transaction : StellarTransaction}
    {invoice row : ReconciliationInvoice} {other : List Progress}
    (made : (other.flatMap (·.made)).Perm (calls.flatMap (·.made) ++ [matchOf transaction invoice]))
    (invoices : changed.books.invoices = world.books.invoices.save (credited transaction invoice))
    (stored : world.books.invoices.findOne invoice.invoiceId = some row)
    (same : row.paidAmount = invoice.paidAmount) : Kept start changed other := by
  have isRow : row ∈ world.books.invoices.rows := Table.findOne_mem stored
  have rowId : row.invoiceId = invoice.invoiceId := Table.findOne_key stored
  have perm : ∀ id, (matched other id).Perm (matched calls id ++
      [matchOf transaction invoice].filter fun made => decide (made.invoiceId = id)) := by
    intro id
    unfold matched
    rw [← List.filter_append]
    exact made.filter _
  refine ⟨fun later member => ?_, fun entry member => ?_, fun old isOld => ?_⟩
  · rw [invoices] at member
    rcases Table.mem_save.mp member with rfl | ⟨old, different⟩
    · have mine := perm invoice.invoiceId
      rw [List.filter_cons_of_pos (by simp [matchOf]), List.filter_nil] at mine
      have paid := (kept.accounted row isRow).1
      rw [rowId, same] at paid
      refine ⟨?_, fun _ => ?_⟩
      · change (Amount.ofUnits _).units = _ + ((matched other invoice.invoiceId).map (·.units)).sum
        rw [Amount.units_ofUnits, (mine.map (·.units)).sum_nat, List.map_append, List.sum_append, paid,
          Nat.add_assoc]
        rfl
      · simp only [credited, Amount.units_ofUnits, decide_eq_true_eq]
        split
        next reached => exact iff_of_true rfl reached
        next short => exact iff_of_false nofun short
    · obtain ⟨paid, status⟩ := kept.accounted later old
      have others := perm later.invoiceId
      have none : [matchOf transaction invoice].filter (fun made => decide (made.invoiceId = later.invoiceId)) =
          [] := by
        simpa [matchOf] using fun same : invoice.invoiceId = later.invoiceId => different same.symm
      rw [none, List.append_nil] at others
      refine ⟨?_, fun some => status fun none => some ?_⟩
      · rw [paid, (others.map (·.units)).sum_nat]
      · exact (none ▸ others).eq_nil
  · rw [invoices]
    rcases List.mem_append.mp (made.mem_iff.mp member) with old | new
    · obtain ⟨before, isBefore, named⟩ := kept.known entry old
      obtain ⟨later, isLater, same⟩ := saved_has isBefore (credited transaction invoice)
      exact ⟨later, isLater, same.trans named⟩
    · rw [List.mem_singleton.mp new]
      exact ⟨credited transaction invoice, Table.mem_save.mpr (Or.inl rfl), rfl⟩
  · rw [invoices]
    obtain ⟨before, isBefore, named⟩ := kept.stays old isOld
    obtain ⟨later, isLater, same⟩ := saved_has isBefore (credited transaction invoice)
    exact ⟨later, isLater, same.trans named⟩

theorem Kept.creates (kept : Kept start world calls) {invoice : ReconciliationInvoice} {other : List Progress}
    (made : (other.flatMap (·.made)).Perm (calls.flatMap (·.made)))
    (invoices : changed.books.invoices = world.books.invoices.save invoice)
    (fresh : world.books.invoices.findOne invoice.invoiceId = none)
    (unpaid : invoice.paidAmount = Amount.ofUnits 0) : Kept start changed other := by
  have perm : ∀ id, (matched other id).Perm (matched calls id) := fun id => made.filter _
  have absent : ∀ row ∈ world.books.invoices.rows, row.invoiceId ≠ invoice.invoiceId := by
    intro row member same
    have found := Table.findOne_of_mem member
    rw [same, fresh] at found
    cases found
  refine ⟨fun later member => ?_, fun entry member => ?_, fun old isOld => ?_⟩
  · rw [invoices] at member
    rcases Table.mem_save.mp member with rfl | ⟨old, _⟩
    · have none : matched other later.invoiceId = [] := by
        refine List.eq_nil_iff_forall_not_mem.mpr fun entry isEntry => ?_
        obtain ⟨isMade, ofLater⟩ := List.mem_filter.mp isEntry
        obtain ⟨row, isRow, named⟩ := kept.known entry (made.mem_iff.mp isMade)
        exact absent row isRow (named.trans (of_decide_eq_true ofLater))
      have nothing : paidAtStart start later.invoiceId = 0 := by
        unfold paidAtStart
        cases before : start.invoices.findOne later.invoiceId with
        | none => rfl
        | some old =>
          obtain ⟨row, isRow, named⟩ := kept.stays old (Table.findOne_mem before)
          exact absurd (named.trans (Table.findOne_key before)) (absent row isRow)
      rw [none, nothing, unpaid, Amount.units_ofUnits]
      exact ⟨rfl, fun some => absurd rfl some⟩
    · obtain ⟨paid, status⟩ := kept.accounted later old
      refine ⟨?_, fun some => status fun none => some ?_⟩
      · rw [paid, ((perm later.invoiceId).map (·.units)).sum_nat]
      · exact (none ▸ perm later.invoiceId).eq_nil
  · rw [invoices]
    obtain ⟨before, isBefore, named⟩ := kept.known entry (made.mem_iff.mp member)
    obtain ⟨later, isLater, same⟩ := saved_has isBefore invoice
    exact ⟨later, isLater, same.trans named⟩
  · rw [invoices]
    obtain ⟨before, isBefore, named⟩ := kept.stays old isOld
    obtain ⟨later, isLater, same⟩ := saved_has isBefore invoice
    exact ⟨later, isLater, same.trans named⟩

theorem Kept.respond (kept : Kept start world calls) (found : calls[i]? = some progress)
    {op : ReconciliationOp} {outcome : ReconciliationOutcome} {result : Except Exception op.Reply}
    (allowed : reconciling.allows progress op) (quiet : Undisturbed world.books calls i op outcome)
    (responds : world.respond op outcome = some (changed, result)) :
    Kept start changed (calls.set i (reconciling.advance progress op result)) := by
  have unmade : madeAfter progress op result = progress.made →
      ((calls.set i (reconciling.advance progress op result)).flatMap (·.made)).Perm (calls.flatMap (·.made)) := by
    intro same
    have nothing : (reconciling.advance progress op result).made = progress.made ++ [] :=
      same.trans (List.append_nil _).symm
    have grown : ((calls.set i (reconciling.advance progress op result)).flatMap (·.made)).Perm
        (calls.flatMap (·.made) ++ []) := perm_flatMap_set nothing found
    rwa [List.append_nil] at grown
  cases op with
  | saveInvoice saved =>
    obtain ⟨stage, made⟩ := progress
    cases stage with
    | matching transaction invoice later =>
      cases outcome with
      | done =>
        cases responds
        cases allowed
        obtain ⟨row, stored, same⟩ := Option.map_eq_some_iff.mp (quiet _ found invoice rfl)
        exact kept.saves (perm_flatMap_set rfl found) rfl stored same
      | fails failure =>
        cases responds
        exact kept.same (unmade rfl) rfl
      | _ => cases responds
    | _ => exact allowed.elim
  | insertInvoice invoice =>
    have same : madeAfter progress (.insertInvoice invoice) result = progress.made := madeAfter_same nofun
    rcases respond_invoices responds with invoices | ⟨_, isSave, _⟩ | ⟨other, createdAt, isInsert, fresh, invoices⟩
    · exact kept.same (unmade same) invoices
    · cases isSave
    · cases isInsert
      obtain ⟨stage, made⟩ := progress
      have unpaid : invoice.paidAmount = Amount.ofUnits 0 := by
        cases stage with
        | matching _ _ _ => exact allowed.elim
        | _ => exact allowed
      exact kept.creates (unmade same) invoices fresh unpaid
  | _ =>
    rcases respond_invoices responds with invoices | ⟨_, isSave, _⟩ | ⟨_, _, isInsert, _⟩
    · exact kept.same (unmade (madeAfter_same nofun)) invoices
    · cases isSave
    · cases isInsert

end Steps

/-- In every run in which invoices are saved undisturbed, every invoice has all that was matched with it. -/
theorem matched_payments_added (config : ReconciliationConfig) (world : ReconciliationWorld)
    (mem : ReconciliationMemory) (labels : List (Label (reconciliationProcess config)))
    (after : Config (reconciliationProcess config))
    (admissible : Admissible (OnChoices (undisturbed config)) labels (Config.initial _ world mem))
    (ran : run labels (Config.initial (reconciliationProcess config) world mem) = some after) :
    Accounted world.books after.world.books (phases reconciling after) := by
  have steps : ∀ v v' : View reconciling (reconciliationProcess config), Kept world.books v.world v.phases →
      Decides (undisturbed config) v v' → Kept world.books v'.world v'.phases := by
    intro v v' kept decides
    cases decides with
    | calls new _ =>
      refine kept.same (.of_eq ?_) rfl
      rw [List.flatMap_append]
      exact (congrArg _ (by simp)).trans (List.append_nil _)
    | env mem change => exact kept.same (.refl _) (environment_invoices change)
    | reply i stage op choice world result found allowed responds condition =>
      obtain ⟨outcome, answers, quiet⟩ := condition
      exact kept.respond found allowed quiet answers
  have initially : Kept world.books world [] := by
    refine ⟨fun invoice member => ⟨?_, fun some => absurd rfl some⟩, nofun, fun invoice member =>
      ⟨invoice, member, rfl⟩⟩
    unfold paidAtStart
    rw [Table.findOne_of_mem member]
    rfl
  exact (invariant_of_choices (reconciliation_conforms config) steps (allKeep_initial _ _) initially admissible
    ran).1.accounted

def sampleConfig : ReconciliationConfig := ⟨none, "https://horizon-testnet.stellar.org"⟩

/-- An open invoice of 10. -/
def openInvoice : ReconciliationInvoice :=
  ⟨"INV", Amount.ofUnits 100000000, Amount.ofUnits 0, "XLM", "G", none, .opened, 0⟩

def invoiced : Config (reconciliationProcess sampleConfig) :=
  Config.initial _ ⟨0, ⟨Table.empty.save openInvoice, Table.empty, []⟩, Table.empty⟩ ⟨0, none⟩

def payment (transactionId amount : String) : ReconciliationCall :=
  .ingestTransaction ⟨transactionId, none, none, "G", amount, none, none, none⟩

/-- A payment is stored and its invoice is read. -/
def reads (call : Nat) (transactionId amount : String) : List (Label (reconciliationProcess sampleConfig)) :=
  [.call (payment transactionId amount), .reply call .done, .resume call, .reply call .done, .reply call .done]

/-- The invoice, the audit and the transaction are saved. -/
def saves (call : Nat) : List (Label (reconciliationProcess sampleConfig)) :=
  [.reply call .done, .reply call .done, .reply call .done]

theorem payments_in_turn_added : ∃ after,
    run (reads 0 "a" "4" ++ saves 0 ++ reads 1 "b" "6" ++ saves 1) invoiced = some after ∧
      after.world.books.invoices.rows.map (·.status) = [.paid] ∧
      Accounted invoiced.world.books after.world.books (phases reconciling after) := by
  obtain ⟨after, ran, paid⟩ := (by decide +kernel : ∃ after,
    run (reads 0 "a" "4" ++ saves 0 ++ reads 1 "b" "6" ++ saves 1) invoiced = some after ∧
      after.world.books.invoices.rows.map (·.status) = [.paid])
  exact ⟨after, ran, paid, matched_payments_added sampleConfig _ _
    (reads 0 "a" "4" ++ saves 0 ++ reads 1 "b" "6" ++ saves 1) after (by decide +kernel) ran⟩

/-- Both payments read the invoice before one of them saves it, and the first is lost. -/
theorem payment_lost : ∃ after,
    run (reads 0 "a" "4" ++ reads 1 "b" "6" ++ saves 0 ++ saves 1) invoiced = some after ∧
      ¬ Accounted invoiced.world.books after.world.books (phases reconciling after) := by
  obtain ⟨after, ran, invoice, isInvoice, differs⟩ := (by decide +kernel : ∃ after,
    run (reads 0 "a" "4" ++ reads 1 "b" "6" ++ saves 0 ++ saves 1) invoiced = some after ∧
      ∃ invoice ∈ after.world.books.invoices.rows, invoice.paidAmount.units ≠
        paidAtStart invoiced.world.books invoice.invoiceId +
          ((matched (phases reconciling after) invoice.invoiceId).map (·.units)).sum)
  exact ⟨after, ran, fun accounted => differs (accounted invoice isInvoice).1⟩

end AlianStructure.Guarantees.ConcurrentPayments
