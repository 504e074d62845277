import TransferDrill.Drive.Pipeline
import TransferDrill.Proofs.Drive.Path
import TransferDrill.Proofs.Matching.Ranks
import TransferDrill.Proofs.Matching.Signers
import TransferDrill.Proofs.Rehearsal.Plain

/-!
# What a constructed transaction went through

The replies to the calls of one construction determine its transcript, in which every request is
made of earlier replies. A transaction is returned exactly along such transcripts, and exactly if
the parsed operations cover the intent, none of them is in the way of a comparison, nobody has
signed early, and the signers are those of the payloads.
-/

namespace TransferDrill.Drive

open Rehearsal

/-- The replies to the calls by which a transaction is constructed. -/
structure Replies where
  request : Option Json.Members
  metadata : Option Json.Members
  unsigned : Unsigned
  draft : Parsed
  signatures : List Signature
  content : String
  parsed : Parsed
  identifier : TransactionIdentifier

namespace Replies

/-- The transaction that the replies amount to. -/
def transaction (r : Replies) : Transaction := ⟨r.identifier, r.content⟩

/-- Everything that happens while a transaction is constructed with these replies: each request is
made of the intent and of earlier replies. -/
def transcript (r : Replies) (network : NetworkIdentifier) (intent : List Operation) :
    List Event :=
  [⟨.call (.preprocess network intent), .ok r.request⟩,
    ⟨.call (.metadata network r.request), .ok r.metadata⟩,
    ⟨.call (.payloads network intent r.metadata), .ok r.unsigned⟩,
    ⟨.call (.parse network false r.unsigned.content), .ok r.draft⟩,
    ⟨.call (.checkOperations .lenient intent r.draft.operations), .ok ()⟩,
    ⟨.log .debug
      s!"Unsigned transaction verified, signing {r.unsigned.payloads.length} payloads", ()⟩,
    ⟨.call (.sign r.unsigned.payloads), .ok r.signatures⟩,
    ⟨.call (.combine network r.unsigned.content r.signatures), .ok r.content⟩,
    ⟨.call (.parse network true r.content), .ok r.parsed⟩,
    ⟨.call (.checkOperations .lenient intent r.parsed.operations), .ok ()⟩,
    ⟨.call (.checkSigners r.unsigned.payloads r.parsed.signers), .ok ()⟩,
    ⟨.call (.hash network r.content), .ok r.identifier⟩]

/-- The replies pass all checks that are made of them. -/
structure Passed (r : Replies) (intent : List Operation) : Prop where
  noEarlySigners : r.draft.signers = []
  draft : Matching.checkOperations .lenient intent r.draft.operations = .ok ()
  parsed : Matching.checkOperations .lenient intent r.parsed.operations = .ok ()
  signers : Matching.checkSigners r.unsigned.payloads r.parsed.signers = .ok ()

/-- The replies are what a transaction for the intent has to give. -/
structure Verified (r : Replies) (intent : List Operation) : Prop where
  noEarlySigners : r.draft.signers = []
  draft : Matching.Covers intent r.draft.operations
  draftLegible : Matching.Legible intent r.draft.operations
  parsed : Matching.Covers intent r.parsed.operations
  parsedLegible : Matching.Legible intent r.parsed.operations
  signers : r.parsed.signers.Perm (r.unsigned.payloads.map (·.signer)).dedup

/-- The checks decide whether the replies are what they have to be. -/
theorem passed_iff_verified (r : Replies) {intent : List Operation}
    (names : ∀ op ∈ intent, op.NamesDistinct) : r.Passed intent ↔ r.Verified intent := by
  have hdraft := Matching.checkOperations_lenient_iff names r.draft.operations
  have hparsed := Matching.checkOperations_lenient_iff names r.parsed.operations
  have hsigners := Matching.checkSigners_eq_ok_iff r.unsigned.payloads r.parsed.signers
  constructor
  · intro h
    obtain ⟨hdraftLegible, hdraftCovers⟩ := hdraft.mp h.draft
    obtain ⟨hparsedLegible, hparsedCovers⟩ := hparsed.mp h.parsed
    exact ⟨h.noEarlySigners, hdraftCovers, hdraftLegible, hparsedCovers, hparsedLegible,
      hsigners.mp h.signers⟩
  · intro h
    exact ⟨h.noEarlySigners, hdraft.mpr ⟨h.draftLegible, h.draft⟩,
      hparsed.mpr ⟨h.parsedLegible, h.parsed⟩, hsigners.mpr h.signers⟩

end Replies

/-- A script that begins with a check leads to a value exactly if the check was announced, found
nothing, and the rest leads there. -/
theorem leads_check_bind_iff {φ β : Type} {announcement : Call} {report : CheckFault φ → Failure}
    {verdict : Except φ Unit} {next : Unit → Script β} {events : List Event} {b : β} :
    ((check announcement report verdict).bind next).Leads events (.done b) ↔
      verdict = .ok () ∧ ∃ value later, events = ⟨.call announcement, .ok value⟩ :: later ∧
        (next ()).Leads later (.done b) := by
  rw [check, Script.bind_eq, Script.bind_assoc, Script.leads_attempt_bind_iff]
  cases verdict with
  | ok u => simp [Script.ofExcept]
  | error fault => simp [Script.ofExcept]

/-- A script that begins with a check: the check does not return, or it finds something, or it is
passed. -/
theorem leads_check_bind {φ β : Type} {c : Call} {report : CheckFault φ → Failure}
    {verdict : Except φ Unit} {next : Unit → Script β} {events : List Event} {outcome : Outcome β}
    (h : ((check c report verdict).bind next).Leads events outcome) :
    (∃ fault : Fault, events = [⟨.call c, .error fault⟩] ∧
      outcome = .failed (fault.failure (report ∘ .refused))) ∨
    ∃ value later, events = ⟨.call c, .ok value⟩ :: later ∧
      ((∃ found, verdict = .error found ∧ later = [] ∧ outcome = .failed (report (.found found))) ∨
        verdict = .ok () ∧ (next ()).Leads later outcome) := by
  rw [check, Script.bind_eq, Script.bind_assoc] at h
  rcases Script.leads_attempt_bind h with hfault | ⟨value, later, rfl, hlater⟩
  · exact .inl hfault
  · refine .inr ⟨value, later, rfl, ?_⟩
    cases verdict with
    | error found =>
      obtain ⟨rfl, rfl⟩ := Script.leads_failed_iff.mp hlater
      exact .inl ⟨found, rfl, rfl, rfl⟩
    | ok _ => exact .inr ⟨rfl, hlater⟩

/-- The paths on which a transaction is constructed are the transcripts that pass all checks. -/
theorem createTransaction_leads_done_iff (settings : Settings) (intent : List Operation)
    (events : List Event) (transaction : Transaction) :
    (createTransaction settings intent).Leads events (.done transaction) ↔
      ∃ r : Replies, events = r.transcript settings.network intent ∧ r.Passed intent ∧
        transaction = r.transaction := by
  simp only [createTransaction, Script.bind_eq, Script.pure_eq, Script.step, Script.log,
    checkOperations, checkSigners]
  constructor
  · intro h
    rw [Script.leads_attempt_bind_iff] at h
    obtain ⟨request, _, rfl, h⟩ := h
    rw [Script.leads_attempt_bind_iff] at h
    obtain ⟨metadata, _, rfl, h⟩ := h
    rw [Script.leads_attempt_bind_iff] at h
    obtain ⟨unsigned, _, rfl, h⟩ := h
    rw [Script.leads_attempt_bind_iff] at h
    obtain ⟨draft, _, rfl, h⟩ := h
    rw [Script.leads_require_bind_iff] at h
    obtain ⟨hearly, h⟩ := h
    rw [leads_check_bind_iff] at h
    obtain ⟨hdraft, _, _, rfl, h⟩ := h
    rw [Script.leads_request_bind_iff] at h
    obtain ⟨_, _, rfl, h⟩ := h
    rw [Script.leads_attempt_bind_iff] at h
    obtain ⟨signatures, _, rfl, h⟩ := h
    rw [Script.leads_attempt_bind_iff] at h
    obtain ⟨content, _, rfl, h⟩ := h
    rw [Script.leads_attempt_bind_iff] at h
    obtain ⟨parsed, _, rfl, h⟩ := h
    rw [leads_check_bind_iff] at h
    obtain ⟨hparsed, _, _, rfl, h⟩ := h
    rw [leads_check_bind_iff] at h
    obtain ⟨hsigners, _, _, rfl, h⟩ := h
    rw [Script.leads_attempt_bind_iff] at h
    obtain ⟨identifier, _, rfl, h⟩ := h
    rw [Script.leads_done_iff] at h
    obtain ⟨rfl, h⟩ := h
    cases h
    exact ⟨⟨request, metadata, unsigned, draft, signatures, content, parsed, identifier⟩, rfl,
      ⟨List.isEmpty_iff.mp hearly, hdraft, hparsed, hsigners⟩, rfl⟩
  · intro h
    obtain ⟨r, rfl, hpassed, rfl⟩ := h
    refine Script.leads_attempt_bind_iff.mpr ⟨r.request, _, rfl, ?_⟩
    refine Script.leads_attempt_bind_iff.mpr ⟨r.metadata, _, rfl, ?_⟩
    refine Script.leads_attempt_bind_iff.mpr ⟨r.unsigned, _, rfl, ?_⟩
    refine Script.leads_attempt_bind_iff.mpr ⟨r.draft, _, rfl, ?_⟩
    refine Script.leads_require_bind_iff.mpr ⟨List.isEmpty_iff.mpr hpassed.noEarlySigners, ?_⟩
    refine leads_check_bind_iff.mpr ⟨hpassed.draft, (), _, rfl, ?_⟩
    refine Script.leads_request_bind_iff.mpr ⟨(), _, rfl, ?_⟩
    refine Script.leads_attempt_bind_iff.mpr ⟨r.signatures, _, rfl, ?_⟩
    refine Script.leads_attempt_bind_iff.mpr ⟨r.content, _, rfl, ?_⟩
    refine Script.leads_attempt_bind_iff.mpr ⟨r.parsed, _, rfl, ?_⟩
    refine leads_check_bind_iff.mpr ⟨hpassed.parsed, (), _, rfl, ?_⟩
    refine leads_check_bind_iff.mpr ⟨hpassed.signers, (), _, rfl, ?_⟩
    exact Script.leads_attempt_bind_iff.mpr ⟨r.identifier, _, rfl, .done _⟩

/-- A transaction is constructed exactly if every call returns and the replies are what they have
to be. It consists of the reply to the last call and of the content that was parsed, with the
signatures of the payloads that came with the draft. -/
theorem createTransaction_returns_iff {σ : Type} (answer : Environment σ) (settings : Settings)
    {intent : List Operation} (names : ∀ op ∈ intent, op.NamesDistinct) (state after : σ)
    (events : List Event) (transaction : Transaction) :
    (createTransaction settings intent).run answer state = ⟨events, after, .done transaction⟩ ↔
      ∃ r : Replies, events = r.transcript settings.network intent ∧
        answer.Gives state events after ∧ r.Verified intent ∧
        transaction = ⟨r.identifier, r.content⟩ := by
  rw [Script.run_eq_iff, createTransaction_leads_done_iff]
  constructor
  · intro h
    obtain ⟨⟨r, hevents, hpassed, htransaction⟩, hgives⟩ := h
    exact ⟨r, hevents, hgives, (r.passed_iff_verified names).mp hpassed, htransaction⟩
  · intro h
    obtain ⟨r, hevents, hgives, hverified, htransaction⟩ := h
    exact ⟨⟨r, hevents, (r.passed_iff_verified names).mpr hverified, htransaction⟩, hgives⟩

/-- In a plain rehearsal, an intent with two operations of one class becomes a transaction. -/
theorem createTransaction_returns_rehearsed :
    (∀ op ∈ plainIntent, op.NamesDistinct) ∧
      ∃ r : Replies, r.Verified plainIntent ∧
        r.transaction = ⟨⟨"hash(signed(unsigned-1,2))"⟩, "signed(unsigned-1,2)"⟩ := by
  let run := (createTransaction (plainSettings .account) plainIntent).run (answer .plain)
    (.holding [])
  have houtcome : run.outcome =
      .done ⟨⟨"hash(signed(unsigned-1,2))"⟩, "signed(unsigned-1,2)"⟩ := by decide +kernel
  obtain ⟨r, -, -, hverified, htransaction⟩ :=
    (createTransaction_returns_iff (answer .plain) (plainSettings .account)
      plainIntent_namesDistinct (.holding []) run.state run.events _).mp (by rw [← houtcome])
  exact ⟨plainIntent_namesDistinct, r, hverified, htransaction.symm⟩

/-- A world in which an unsigned transaction is parsed to given operations. -/
def draftingWorld (draft : List Operation) : World :=
  { World.plain with parseUnsigned := ⟨some draft, [], [], false, none⟩ }

/-- How the construction of a transaction for one operation ends if the draft is parsed to given
operations, with no signers, and everything else is plain. -/
def draftedOutcome (intended : Operation) (draft : List Operation) : Outcome Transaction :=
  ((createTransaction (plainSettings .account) [intended]).run (answer (draftingWorld draft))
    (.holding [])).outcome

/-- Two drafts that cover the intent alike, one with and one without an operation in the way that
cannot be shown: only with the second is a transaction constructed. One is constructed also where
an operation holds what is not a number. -/
theorem createTransaction_overlong :
    let intended := plainOperation 0 "a" "-10" none;
    let first := [Matching.overlongOperation, intended];
    let last := [intended, Matching.overlongOperation];
    Matching.Covers [intended] first ∧ Matching.Covers [intended] last ∧
      draftedOutcome intended first = .failed (.operations false (.found .overlong)) ∧
      draftedOutcome intended last =
        .done ⟨⟨"hash(signed(unsigned-1,1))"⟩, "signed(unsigned-1,1)"⟩ ∧
      draftedOutcome Matching.undefinedOperation [Matching.undefinedOperation] =
        .done ⟨⟨"hash(signed(unsigned-1,1))"⟩, "signed(unsigned-1,1)"⟩ := by
  decide +kernel

end TransferDrill.Drive
