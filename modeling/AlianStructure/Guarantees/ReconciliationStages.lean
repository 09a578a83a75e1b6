import AlianStructure.Library.CallProtocol
import AlianStructure.Guarantees.ReconciliationInTurn

/-!
# The stages of a reconciliation

Source: src/reconciliation/reconciliation.service.ts:38-126,177-329. A call that has stored a transaction, or
goes through the candidates for an invoice, looks up an invoice for the next transaction, and saves the invoice
with the amount added when the transaction agrees with it. A call keeps the matches it has saved.
-/
namespace AlianStructure.Guarantees.ReconciliationStages
open Library.Interleaving Library.CallProtocol
open Source Source.Reconciliation ReconciliationService ReconciliationInTurn

/-- A transaction whose amount was added to an invoice. -/
structure Match where
  invoiceId : String
  transactionId : String
  units : Nat
  deriving DecidableEq

inductive Stage where
  | apart
  | holding (invoice : ReconciliationInvoice)
  | ingesting (transaction : StellarTransaction)
  | walking (invoice : ReconciliationInvoice) (candidates : List StellarTransaction)
  | matching (transaction : StellarTransaction) (invoice : ReconciliationInvoice) (later : Stage)
  deriving DecidableEq

structure Progress where
  stage : Stage
  made : List Match
  deriving DecidableEq

/-- The match of a transaction with an invoice. -/
def matchOf (transaction : StellarTransaction) (invoice : ReconciliationInvoice) : Match :=
  ⟨invoice.invoiceId, transaction.transactionId, transaction.amount.units⟩

/-- Where the invoice that was looked up for a transaction leads. -/
def lookedUp (transaction : StellarTransaction) (later : Stage) : Option ReconciliationInvoice → Stage
  | some invoice => if matchesInvoice transaction invoice then .matching transaction invoice later else later
  | none => later

/-- The candidates from the first on that agrees with the invoice. -/
def agreeing (invoice : ReconciliationInvoice) (candidates : List StellarTransaction) :
    List StellarTransaction :=
  candidates.dropWhile fun transaction => ! matchesInvoice transaction invoice

def stageAfter (stage : Stage) (op : ReconciliationOp) (result : Except Exception op.Reply) : Stage :=
  match stage, op, result with
  | .apart, .insertTransaction _, .ok saved => .ingesting saved
  | .apart, .insertInvoice _, .ok saved => .holding saved
  | .apart, .findInvoice (.invoiceId _), .ok (some invoice) => .holding invoice
  | .holding invoice, .findTransactions _, .ok candidates => .walking invoice candidates
  | .holding invoice, _, _ => .holding invoice
  | .ingesting transaction, .findInvoice _, .ok found => lookedUp transaction .apart found
  | .walking invoice candidates, .findInvoice (.oldestAt _), .ok found =>
    match agreeing invoice candidates with
    | transaction :: rest => lookedUp transaction (.walking invoice rest) found
    | [] => .walking invoice []
  | .walking invoice candidates, _, .ok _ => .walking invoice candidates
  | .matching _ _ later, .saveInvoice _, .ok _ => later
  | _, _, _ => .apart

def madeAfter (progress : Progress) (op : ReconciliationOp) (result : Except Exception op.Reply) : List Match :=
  match progress.stage, op, result with
  | .matching transaction invoice _, .saveInvoice _, .ok _ => progress.made ++ [matchOf transaction invoice]
  | _, _, _ => progress.made

abbrev reconciling : Protocol reconciliation where
  Phase := Progress
  start _ := ⟨.apart, []⟩
  starts _ _ := False
  allows
    | ⟨.matching transaction invoice _, _⟩, .saveInvoice saved => saved = credited transaction invoice
    | ⟨.matching _ _ _, _⟩, _ | _, .saveInvoice _ => False
    | _, .insertInvoice invoice => invoice.paidAmount = Amount.ofUnits 0
    | _, _ => True
  possible _ _ := True
  advance progress op result := ⟨stageAfter progress.stage op result, madeAfter progress op result⟩
  returns _ _ := True

variable {progress : Progress}

theorem madeAfter_same {op : ReconciliationOp} {result : Except Exception op.Reply}
    (other : ∀ invoice, op ≠ .saveInvoice invoice) : madeAfter progress op result = progress.made := by
  unfold madeAfter
  split
  next => exact absurd rfl (other _)
  next => rfl

/-- The stages between the transactions of a call. -/
def Calm (stage : Stage) : Prop :=
  stage = .apart ∨ ∃ invoice candidates, stage = .walking invoice candidates

/-- The stage after a step of a loop: a failure leaves it. -/
def passed (later : Stage) {α : Type} (progress : Progress) (result : Except Exception α) : Prop :=
  progress.stage = if result.toBool then later else .apart

theorem lookedUp_found {transaction : StellarTransaction} {invoice : ReconciliationInvoice} (later : Stage) :
    lookedUp transaction later (some invoice) =
      if matchesInvoice transaction invoice then .matching transaction invoice later else later := rfl

section Methods
variable {made : List Match} {later : Stage}

theorem writeAudit_follows (calm : Calm later) (audit : ReconciliationAudit) :
    Follows reconciling ⟨later, made⟩ (writeAudit audit) fun progress result => passed later progress result := by
  rcases calm with rfl | ⟨invoice, candidates, rfl⟩ <;> refine ⟨trivial, fun result _ => ?_⟩ <;>
    cases result <;> rfl

theorem leaveUnmatched_follows (calm : Calm later) (transaction : StellarTransaction)
    (invoiceId reason : Option String) :
    Follows reconciling ⟨later, made⟩ (leaveUnmatched transaction invoiceId reason)
      fun progress result => passed later progress result := by
  exact follows_then _ (writeAudit_follows calm _) (fun _ _ ended => ended) fun _ _ ended => ended

theorem applyTo_follows (calm : Calm later)
    (transaction : StellarTransaction) (invoice : ReconciliationInvoice) (reason : Option String) :
    Follows reconciling ⟨.matching transaction invoice later, made⟩ (applyTo transaction invoice reason)
      fun progress result => passed later progress result := by
  unfold applyTo
  rw [throwing_amount, throwing_amount, throwing_amount]
  refine (follows_bind _).mpr ⟨rfl, fun saved _ => ?_⟩
  cases saved with
  | error failure => exact rfl
  | ok _ =>
    exact follows_then _ (writeAudit_follows calm _) (fun _ _ ended => ended) fun _ _ ended => ended

theorem reconcileTransaction_follows (later : Stage) (calm : Calm later) (transaction : StellarTransaction)
    (reason : Option String)
    (allowed : reconciling.allows progress (.findInvoice (.oldestAt transaction.destinationAccount)))
    (leads : ∀ found, reconciling.advance progress
      (.findInvoice (.oldestAt transaction.destinationAccount)) (.ok found) =
        ⟨lookedUp transaction later found, progress.made⟩) (fails : ∀ failure, (reconciling.advance progress
      (.findInvoice (.oldestAt transaction.destinationAccount)) (.error failure)).stage = .apart) :
    Follows reconciling progress (reconcileTransaction transaction reason)
      fun progress result => passed later progress result := by
  refine (follows_bind _).mpr ⟨allowed, fun found _ => ?_⟩
  match found with
  | .error failure => exact fails failure
  | .ok none =>
    rw [leads]
    exact leaveUnmatched_follows calm transaction none reason
  | .ok (some invoice) =>
    rw [leads, lookedUp_found]
    change Follows reconciling _ (if matchesInvoice transaction invoice then _ else _) _
    split
    next => exact applyTo_follows calm transaction invoice reason
    next => exact leaveUnmatched_follows calm transaction (some invoice.invoiceId) reason

theorem reconcileEach_follows (invoice : ReconciliationInvoice) (reason : String) :
    ∀ (candidates all : List StellarTransaction) (made : List Match),
      agreeing invoice all = agreeing invoice candidates →
      Follows reconciling ⟨.walking invoice all, made⟩ (reconcileEach invoice reason candidates)
        fun progress _ => Calm progress.stage
  | [], all, made, _ => Or.inr ⟨invoice, all, rfl⟩
  | transaction :: rest, all, made, same => by
    unfold reconcileEach
    split
    next agrees =>
      have first : agreeing invoice all = transaction :: rest := by
        rw [same]
        exact List.dropWhile_cons_of_neg (by simp [agrees])
      refine (follows_bind _).mpr (follows_mono _ ?_ (reconcileTransaction_follows
        (.walking invoice rest) (Or.inr ⟨invoice, rest, rfl⟩) transaction (some reason) trivial
        (fun found => ?_) fun failure => rfl))
      · rintro ⟨stage, made'⟩ result ended
        cases result with
        | error failure => exact Or.inl ended
        | ok changed =>
          cases ended
          refine (follows_bind _).mpr ⟨trivial, fun saved _ => ?_⟩
          cases saved with
          | error failure => exact Or.inl rfl
          | ok _ => exact reconcileEach_follows invoice reason rest rest made' rfl
      · change (⟨match agreeing invoice all with
          | transaction :: rest => lookedUp transaction (.walking invoice rest) found
          | [] => .walking invoice [], made⟩ : Progress) = _
        rw [first]
    next differs =>
      refine reconcileEach_follows invoice reason rest all made (same.trans ?_)
      exact List.dropWhile_cons_of_pos (by simpa using differs)

theorem throwing_follows {α : Type} (result : Except Exception α) :
    Follows reconciling progress (throwing result) fun after _ => after = progress := by
  cases result <;> rfl

theorem createInvoice_follows (dto : CreateInvoiceDto) :
    Follows reconciling ⟨.apart, made⟩ (createInvoice dto) fun _ _ => True := by
  refine (follows_bind _).mpr ⟨trivial, fun existing _ => ?_⟩
  match existing with
  | .error failure => trivial
  | .ok (some invoice) => trivial
  | .ok none =>
    refine (follows_bind _).mpr (follows_mono _ ?_ (throwing_follows _))
    rintro progress expected rfl
    cases expected with
    | error failure => trivial
    | ok expectedAmount =>
      refine (follows_bind _).mpr ⟨rfl, fun inserted _ => ?_⟩
      cases inserted with
      | error failure => trivial
      | ok saved =>
        refine (follows_bind _).mpr ⟨trivial, fun found _ => ?_⟩
        cases found with
        | error failure => trivial
        | ok candidates =>
          exact follows_then _ (reconcileEach_follows saved
            "Invoice registered after payment" candidates candidates made rfl) (fun _ _ _ => trivial) fun _ _ _ => trivial

theorem ingestTransaction_follows (dto : IngestTransactionDto) :
    Follows reconciling ⟨.apart, made⟩ (ingestTransaction dto) fun progress _ => progress.stage = .apart := by
  refine (follows_bind _).mpr ⟨trivial, fun existing _ => ?_⟩
  match existing with
  | .error failure => exact rfl
  | .ok (some transaction) =>
    refine (follows_bind _).mpr ⟨trivial, fun noted _ => ?_⟩
    cases noted <;> rfl
  | .ok none =>
    refine (follows_bind _).mpr (follows_mono _ ?_ (throwing_follows _))
    rintro progress normalized rfl
    cases normalized with
    | error failure => exact rfl
    | ok amount =>
      refine fun memory => (follows_bind _).mpr ⟨trivial, fun inserted _ => ?_⟩
      cases inserted with
      | error failure => exact rfl
      | ok saved =>
        have apart : Calm .apart := Or.inl rfl
        have stores : ∀ (changed : StellarTransaction) (made : List Match),
            Follows reconciling ⟨.apart, made⟩ (do ask (.saveTransaction changed); pure changed)
              fun progress _ => progress.stage = .apart := by
          refine fun changed made => (follows_bind _).mpr ⟨trivial, fun stored _ => ?_⟩
          cases stored <;> rfl
        change Follows reconciling ⟨.ingesting saved, made⟩
          (tryCatch (reconcileTransaction saved none) (recordFailure saved) >>= _) _
        refine (follows_bind _).mpr ((follows_tryCatch _).mpr (follows_mono _ ?_
          (reconcileTransaction_follows .apart apart saved none trivial (fun found => rfl) fun failure => rfl)))
        rintro ⟨stage, made'⟩ result ended
        cases result with
        | ok changed =>
          cases ended
          exact stores changed made'
        | error failure =>
          cases ended
          refine (follows_bind _).mpr ⟨trivial, fun noted _ => ?_⟩
          cases noted with
          | error failure => exact rfl
          | ok _ => exact stores _ made'

theorem getInvoice_follows (calm : Calm progress.stage) (invoiceId : String) :
    Follows reconciling progress (getInvoice invoiceId) fun _ _ => True := by
  obtain ⟨stage, made⟩ := progress
  rcases calm with same | ⟨invoice, candidates, same⟩ <;> cases same
  all_goals
    refine (follows_bind _).mpr ⟨trivial, fun found _ => ?_⟩
    match found with
    | .error failure => trivial
    | .ok none => trivial
    | .ok (some invoice) =>
      refine (follows_bind _).mpr ⟨trivial, fun audits _ => ?_⟩
      cases audits <;> trivial

theorem manualReconcile_follows (invoiceId : String) (note : Option String) :
    Follows reconciling ⟨.apart, made⟩ (manualReconcile invoiceId note) fun _ _ => True := by
  refine (follows_bind _).mpr ⟨trivial, fun existing _ => ?_⟩
  match existing with
  | .error failure => trivial
  | .ok none => trivial
  | .ok (some invoice) =>
    refine (follows_bind _).mpr ⟨trivial, fun found _ => ?_⟩
    cases found with
    | error failure => trivial
    | ok candidates =>
      refine (follows_bind _).mpr (follows_mono _ ?_ (reconcileEach_follows invoice _ candidates candidates made rfl))
      intro progress result calm
      cases result with
      | error failure => trivial
      | ok _ => exact getInvoice_follows calm invoiceId

theorem getTransaction_follows (transactionId : String) :
    Follows reconciling ⟨.apart, made⟩ (getTransaction transactionId) fun _ _ => True := by
  refine (follows_bind _).mpr ⟨trivial, fun found _ => ?_⟩
  match found with
  | .error failure => trivial
  | .ok none => trivial
  | .ok (some transaction) =>
    refine (follows_bind _).mpr ⟨trivial, fun audits _ => ?_⟩
    cases audits <;> trivial

theorem advanceCursor_follows (progress : Progress) (record : HorizonRecord) :
    Follows reconciling progress (advanceCursor record) fun after result => after = progress ∧ result = .ok () := by
  unfold advanceCursor
  split
  next => exact fun memory => ⟨rfl, rfl⟩
  next => exact ⟨rfl, rfl⟩

theorem pollEach_follows : ∀ (records : List HorizonRecord) (made : List Match),
    Follows reconciling ⟨.apart, made⟩ (pollEach records) fun progress _ => progress.stage = .apart
  | [], made => rfl
  | record :: rest, made => by
    have advances : ∀ {α : Type} {made : List Match} {next : ReconciliationM α},
        (Follows reconciling ⟨.apart, made⟩ next fun progress _ => progress.stage = .apart) →
        Follows reconciling ⟨.apart, made⟩ (do advanceCursor record; next) fun progress _ =>
          progress.stage = .apart := by
      intro α made next follows
      refine (follows_bind _).mpr (follows_mono _ ?_ (advanceCursor_follows _ record))
      rintro progress result ⟨rfl, rfl⟩
      exact follows
    unfold pollEach
    split
    next => exact advances (pollEach_follows rest made)
    next hash _ =>
      refine (follows_bind _).mpr (follows_mono _ ?_ (ingestTransaction_follows _))
      rintro ⟨stage, made'⟩ result ended
      cases ended
      cases result with
      | error failure => exact rfl
      | ok transaction =>
        refine advances ((follows_bind _).mpr (follows_mono _ ?_ (pollEach_follows rest made')))
        intro progress ingested ended
        cases ingested <;> exact ended

theorem pollPage_follows (baseUrl account : String) :
    Follows reconciling ⟨.apart, made⟩ (pollPage baseUrl account) fun progress _ => progress.stage = .apart := by
  refine fun memory => (follows_bind _).mpr ⟨trivial, fun response _ => ?_⟩
  match response with
  | .error failure => exact rfl
  | .ok (.failed status) => exact rfl
  | .ok (.records records) => exact pollEach_follows records made

theorem pollHorizon_follows (config : ReconciliationConfig) :
    Follows reconciling ⟨.apart, made⟩ (pollHorizon config) fun _ _ => True := by
  unfold pollHorizon
  split
  next => trivial
  next account _ =>
    refine (follows_tryCatch _).mpr ((follows_bind _).mpr (follows_mono _ ?_ (pollPage_follows _ account)))
    rintro ⟨stage, made'⟩ result ended
    cases ended
    cases result with
    | ok ingested => trivial
    | error failure =>
      refine (follows_bind _).mpr ⟨trivial, fun noted _ => ?_⟩
      cases noted <;> trivial

end Methods

theorem reconciliation_conforms (config : ReconciliationConfig) :
    Conforms reconciling (reconciliationProcess config) where
  body call _ := by
    have returns : ∀ {α : Type} {value : α → ReconciliationValue} {program : ReconciliationM α}
        {post : Progress → Except Exception α → Prop},
        Follows reconciling ⟨.apart, []⟩ program post →
        Keeps reconciling ⟨.apart, []⟩ (returning value program) := by
      intro α value program post follows
      refine (follows_bind _).mpr (follows_mono _ ?_ follows)
      intro progress result _
      cases result <;> trivial
    cases call with
    | createInvoice dto => exact returns (createInvoice_follows dto)
    | ingestTransaction dto => exact returns (ingestTransaction_follows dto)
    | manualReconcile invoiceId note => exact returns (manualReconcile_follows invoiceId note)
    | pollHorizon => exact returns (pollHorizon_follows config)
    | getTransaction transactionId => exact returns (getTransaction_follows transactionId)
    | getInvoice invoiceId => exact returns (getInvoice_follows (Or.inl rfl) invoiceId)
    | listUnmatched limit =>
      have lists : Follows reconciling ⟨.apart, []⟩ (listUnmatched limit) fun _ _ => True :=
        ⟨trivial, fun _ _ => trivial⟩
      exact returns lists
    | listAudits invoiceId transactionId =>
      have lists : Follows reconciling ⟨.apart, []⟩ (listAudits invoiceId transactionId) fun _ _ => True :=
        ⟨trivial, fun _ _ => trivial⟩
      exact returns lists
  possible _ _ _ _ _ _ := trivial

end AlianStructure.Guarantees.ReconciliationStages
