import TransferDrill.Proofs.Drive.Contract
import TransferDrill.Proofs.Drive.Requests
import TransferDrill.Proofs.Drive.Rounds

/-!
# Where an intent comes from

A round of the drive finds a sender, sizes a transfer from it and makes that transfer. So a contract
that is harmless before there is an intent is kept by the whole drive if it is kept wherever a
transfer is made. One such contract is that every intent is that of the transfer sized last, for the
sender found just before.
-/

namespace TransferDrill

/-- The intent that a request is about. -/
def Ask.intent? : Ask → Option (List Operation)
  | .call (.preprocess _ intent) => some intent
  | .call (.payloads _ intent _) => some intent
  | .call (.checkOperations _ intent _) => some intent
  | .call (.transactionCreated _ _ _ intent) => some intent
  | _ => none

/-- A request that is made while there is no intent is about none. -/
theorem Ask.intent?_of_beforeIntent (q : Ask) (h : q.BeforeIntent) : q.intent? = none := by
  cases q with
  | call c => cases c <;> first | rfl | exact h.elim
  | _ => rfl

namespace Drive

variable {settings : Settings} {patience : Nat} {wanted : Option Int}

section Keeping

variable {contract : Contract}
  (hbefore : ∀ q : Ask, q.BeforeIntent → ∀ past reply, contract.guarantees past ⟨q, reply⟩)
  (hmake : ∀ past selecting sizing sender transfer,
    (findSender settings patience).Leads selecting (.done sender) →
    (sizeTransfer settings sender).Leads sizing (.done transfer) →
    (∀ e ∈ sizing, contract.relies e) →
    (makeTransfer settings sender transfer).Keeps contract (fun _ _ => True)
      (past ++ selecting ++ sizing))

include hbefore hmake

/-- A round keeps a contract if a transfer that was sized for the sender just found keeps it. -/
theorem round_keeps (past : List Event) :
    (round settings patience).Keeps contract (fun _ _ => True) past := by
  rw [round]
  simp only [Script.bind_eq, Script.pure_eq]
  refine Script.keeps_bind_iff.mpr ?_
  refine (findSenderFrom_beforeIntent patience patience).keeps hbefore ?_
  intro selecting outcome hfound _
  cases outcome with
  | failed f => trivial
  | unfinished => trivial
  | done sender =>
    refine Script.keeps_bind_iff.mpr ?_
    refine ((sizeTransfer_inSizing sender).catchShortage.mono
      Ask.beforeIntent_of_inSizing).keeps hbefore ?_
    intro sizing outcome hsizing hrelies
    cases outcome with
    | failed f => trivial
    | unfinished => trivial
    | done result =>
      cases result with
      | error shortage =>
        refine Script.keeps_bind_iff.mpr ?_
        refine (awaitChange_beforeIntent patience shortage).keeps hbefore ?_
        intro waiting outcome _ _
        cases outcome <;> trivial
      | ok transfer =>
        have hsized : (sizeTransfer settings sender).Leads sizing (.done transfer) := by
          simpa using Script.leads_catchShortage_done_iff.mp hsizing
        refine Script.keeps_bind_iff.mpr ?_
        refine (hmake past selecting sizing sender transfer hfound hsized hrelies).mono ?_
        intro outcome later _
        cases outcome <;> trivial

/-- However many rounds it takes, the drive keeps such a contract. -/
theorem createTransactionsFrom_keeps_of_rounds (rounds created : Nat) (past : List Event) :
    (createTransactionsFrom settings patience wanted rounds created).Keeps contract
      (fun _ _ => True) past := by
  induction rounds, created using rounds_induction wanted generalizing past with
  | done rounds created henough =>
    rw [createTransactionsFrom_of_enough henough]
    trivial
  | cut created henough =>
    rw [createTransactionsFrom_zero henough]
    trivial
  | more rounds created henough ih =>
    rw [createTransactionsFrom_succ henough]
    refine Script.keeps_bind_iff.mpr ((round_keeps hbefore hmake past).mono ?_)
    intro outcome later _
    cases outcome with
    | done made => exact ih made.toNat later
    | failed f => trivial
    | unfinished => trivial

end Keeping

/-! ## Plans -/

/-- A transfer that was sized for a sender, and what happened before it and since. -/
structure Plan where
  earlier : List Event
  selecting : List Event
  sender : Sender
  sizing : List Event
  transfer : Transfer
  later : List Event

/-- Everything that has happened, the search for the sender and the sizing in turn. -/
def Plan.past (p : Plan) : List Event :=
  p.earlier ++ p.selecting ++ p.sizing ++ p.later

/-- The sender was found in the search, and the transfer sized for it has an intent. -/
structure Plan.Sound (p : Plan) (settings : Settings) (patience : Nat) (intent : List Operation) :
    Prop where
  found : (findSender settings patience).Leads p.selecting (.done p.sender)
  sized : (sizeTransfer settings p.sender).Leads p.sizing (.done p.transfer)
  populated : p.transfer.populate = .ok intent

/-- Every intent has been planned. -/
def planContract (settings : Settings) (patience : Nat) : Contract where
  relies _ := True
  guarantees past e := ∀ intent, e.request.intent? = some intent →
    ∃ p : Plan, p.past = past ∧ p.Sound settings patience intent

/-- The construction of a transaction is about its intent only. -/
theorem createTransaction_intent (intent : List Operation) :
    (createTransaction settings intent).OnlyAsks fun q =>
      ∀ other, q.intent? = some other → other = intent := by
  have hsame (other : List Operation) (h : some intent = some other) : other = intent :=
    (Option.some.inj h).symm
  refine .bind (.attempt hsame) fun request => .bind (.attempt nofun) fun metadata => ?_
  refine .bind (.attempt hsame) fun unsigned => .bind (.attempt nofun) fun draft => ?_
  refine .bind .require fun _ => .bind (.bind (.attempt hsame) fun _ => .ofExcept) fun _ => ?_
  refine .bind (.request nofun) fun _ => .bind (.attempt nofun) fun signatures => ?_
  refine .bind (.attempt nofun) fun content => .bind (.attempt nofun) fun parsed => ?_
  refine .bind (.bind (.attempt hsame) fun _ => .ofExcept) fun _ => ?_
  refine .bind (.bind (.attempt nofun) fun _ => .ofExcept) fun _ => ?_
  exact .bind (.attempt nofun) fun identifier => trivial

/-- A transfer that was sized for the sender just found is made as planned. -/
theorem makeTransfer_keeps_plan {past selecting sizing : List Event} {sender : Sender}
    {transfer : Transfer} (hfound : (findSender settings patience).Leads selecting (.done sender))
    (hsized : (sizeTransfer settings sender).Leads sizing (.done transfer)) :
    (makeTransfer settings sender transfer).Keeps (planContract settings patience)
      (fun _ _ => True) (past ++ selecting ++ sizing) := by
  unfold makeTransfer
  cases hpopulated : transfer.populate with
  | error fault => trivial
  | ok intent =>
    have honly : ((createTransaction settings intent).bind fun transaction =>
        (Script.call (.transactionCreated sender.address transaction.identifier transaction.content
          intent) .announceTransaction).bind fun _ => Script.log .info
          s!"Created transaction {transaction.identifier.hash} from {sender.address}").OnlyAsks
        fun q => ∀ other, q.intent? = some other → other = intent := by
      refine .bind (createTransaction_intent intent) fun transaction => ?_
      exact .bind (.attempt fun other h => (Option.some.inj h).symm) fun _ => .request nofun
    refine honly.keeps_after ?_ fun _ _ _ _ => trivial
    intro q hq later reply other hother
    obtain rfl := hq other hother
    exact ⟨⟨past, selecting, sender, sizing, transfer, later⟩, rfl, hfound, hsized, hpopulated⟩

/-- Whatever a drive does with an intent, it is that of the transfer that was sized last, for the
sender found just before. -/
theorem createTransactions_planned {events before after : List Event} {outcome : Outcome Nat}
    (h : (createTransactions settings patience wanted).Leads events outcome) {e : Event}
    (hevents : events = before ++ e :: after) {intent : List Operation}
    (hintent : e.request.intent? = some intent) :
    ∃ p : Plan, p.past = before ∧ p.Sound settings patience intent := by
  have hkeeps : (createTransactions settings patience wanted).Keeps
      (planContract settings patience) (fun _ _ => True) [] := by
    refine createTransactionsFrom_keeps_of_rounds ?_ ?_ patience 0 []
    · intro q hq past reply intent hsome
      rw [q.intent?_of_beforeIntent hq] at hsome
      cases hsome
    · intro past selecting sizing sender transfer hfound hsized _
      exact makeTransfer_keeps_plan hfound hsized
  exact hkeeps.guarantees h (fun _ _ => trivial) hevents intent hintent

end Drive

end TransferDrill
