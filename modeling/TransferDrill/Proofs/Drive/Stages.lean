import TransferDrill.Proofs.Drive.Assembly
import TransferDrill.Proofs.Drive.Cause
import TransferDrill.Proofs.Drive.FailFast
import TransferDrill.Proofs.Drive.Pipeline
import TransferDrill.Proofs.Drive.Requests

/-!
# The first stage that fails

A transaction is constructed in stages: eight calls of the adapter and the checks between them. A
stage is entered only after all earlier ones have passed, and the first one that fails ends the
construction with a failure of its own. So what is wrong at a later stage never shows before, and
nothing is signed or named that has not been checked.
-/

namespace TransferDrill

/-- The step of construction that a call is made for. -/
def Call.step? : Call → Option Step
  | .preprocess .. => some .preprocess
  | .metadata .. => some .metadata
  | .payloads .. => some .payloads
  | .parse _ signed _ => some (.parse signed)
  | .sign _ => some .sign
  | .combine .. => some .combine
  | .hash .. => some .hash
  | _ => none

/-- The step of construction that an event belongs to. -/
def Event.step? (e : Event) : Option Step :=
  match e.request with
  | .call c => c.step?
  | _ => none

/-- The steps of construction in their order. -/
def Step.order : List Step :=
  [.preprocess, .metadata, .payloads, .parse false, .sign, .combine, .parse true, .hash]

namespace Drive

open Rehearsal

variable {settings : Settings}

/-! ## Stages -/

/-- A stage of construction: a call that is made for a step, a check, or a log line. -/
inductive Stage where
  | step (failing : Step) (c : Call) (named : c.step? = some failing)
  | noSigners (early : List String)
  | operations (signed : Bool) (intent observed : List Operation)
  | signers (payloads : List SigningPayload) (observed : List String)
  | note (text : String)

namespace Stage

/-- What comes of a stage. -/
@[reducible] def Value : Stage → Type
  | .step _ c _ => c.Value
  | _ => Unit

/-- What is done at a stage. -/
def script : (s : Stage) → Script s.Value
  | .step failing c _ => Script.step c failing
  | .noSigners early => Script.require early.isEmpty (.earlySigners early.length)
  | .operations signed intent observed => checkOperations signed intent observed
  | .signers payloads observed => checkSigners payloads observed
  | .note text => Script.log .debug text

/-- The step that a stage is. -/
def step? : Stage → Option Step
  | .step failing _ _ => some failing
  | _ => none

/-- A check finds nothing. -/
def Sound : Stage → Prop
  | .noSigners early => early = []
  | .operations _ intent observed => Matching.checkOperations .lenient intent observed = .ok ()
  | .signers payloads observed => Matching.checkSigners payloads observed = .ok ()
  | _ => True

/-- What happens at a stage that fails, and the failure: a call does not return, or a check finds
something. -/
inductive Fails : Stage → List Event → Failure → Prop
  | step {failing : Step} {c : Call} {named : c.step? = some failing} (fault : Fault) :
      Fails (.step failing c named) [⟨.call c, .error fault⟩] (fault.failure (.step failing))
  | noSigners {early : List String} (h : early ≠ []) :
      Fails (.noSigners early) [] (.earlySigners early.length)
  | operations {signed : Bool} {intent observed : List Operation} {found : OperationsFault}
      (h : Matching.checkOperations .lenient intent observed = .error found) :
      Fails (.operations signed intent observed)
        [⟨.call (.checkOperations .lenient intent observed), .ok ()⟩]
        (.operations signed (.found found))
  | operationsRefused {signed : Bool} {intent observed : List Operation} (fault : Fault) :
      Fails (.operations signed intent observed)
        [⟨.call (.checkOperations .lenient intent observed), .error fault⟩]
        (fault.failure fun e => .operations signed (.refused e))
  | signers {payloads : List SigningPayload} {observed : List String} {found : SignersFault}
      (h : Matching.checkSigners payloads observed = .error found) :
      Fails (.signers payloads observed) [⟨.call (.checkSigners payloads observed), .ok ()⟩]
        (.signers (.found found))
  | signersRefused {payloads : List SigningPayload} {observed : List String} (fault : Fault) :
      Fails (.signers payloads observed) [⟨.call (.checkSigners payloads observed), .error fault⟩]
        (fault.failure fun e => .signers (.refused e))

end Stage

/-- A stage with what came of it. -/
structure Passage where
  stage : Stage
  value : stage.Value

/-- What happens at a stage that is passed. -/
def Passage.events : Passage → List Event
  | ⟨.step _ c _, value⟩ => [⟨.call c, .ok value⟩]
  | ⟨.noSigners _, _⟩ => []
  | ⟨.operations _ intent observed, _⟩ =>
    [⟨.call (.checkOperations .lenient intent observed), .ok ()⟩]
  | ⟨.signers payloads observed, _⟩ => [⟨.call (.checkSigners payloads observed), .ok ()⟩]
  | ⟨.note text, _⟩ => [⟨.log .debug text, ()⟩]

instance (c : Call) : Nonempty c.Value := by
  cases c with
  | payloads => exact ⟨⟨"", []⟩⟩
  | parse => exact ⟨⟨[], []⟩⟩
  | coinBalance => exact ⟨⟨none, none⟩⟩
  | hash => exact ⟨⟨""⟩⟩
  | _ => first | exact ⟨()⟩ | exact ⟨""⟩ | exact ⟨[]⟩ | exact ⟨none⟩

instance (s : Stage) : Nonempty s.Value := by
  cases s with
  | step failing c named => exact inferInstanceAs (Nonempty c.Value)
  | _ => exact ⟨()⟩

/-- A path that begins with a stage stops there if the stage fails, and goes on if it is passed. -/
theorem Stage.leads_bind (s : Stage) {α : Type} {next : s.Value → Script α} {events : List Event}
    {outcome : Outcome α} (h : (s.script.bind next).Leads events outcome) :
    (∃ f, s.Fails events f ∧ outcome = .failed f) ∨
      ∃ value later, s.Sound ∧ events = (⟨s, value⟩ : Passage).events ++ later ∧
        (next value).Leads later outcome := by
  cases s with
  | step failing c named =>
    rcases Script.leads_attempt_bind h with ⟨fault, rfl, rfl⟩ | ⟨value, later, rfl, hlater⟩
    · exact .inl ⟨_, .step fault, rfl⟩
    · exact .inr ⟨value, later, trivial, rfl, hlater⟩
  | noSigners early =>
    cases early with
    | nil => exact .inr ⟨(), events, rfl, rfl, h⟩
    | cons first rest =>
      obtain ⟨rfl, rfl⟩ := Script.leads_failed_iff.mp h
      exact .inl ⟨_, .noSigners (by simp), rfl⟩
  | operations signed intent observed =>
    rcases leads_check_bind h with
      ⟨fault, rfl, rfl⟩ | ⟨value, later, rfl, ⟨found, hfound, rfl, rfl⟩ | ⟨hsound, hlater⟩⟩
    · exact .inl ⟨_, .operationsRefused fault, rfl⟩
    · exact .inl ⟨_, .operations hfound, rfl⟩
    · exact .inr ⟨(), later, hsound, rfl, hlater⟩
  | signers payloads observed =>
    rcases leads_check_bind h with
      ⟨fault, rfl, rfl⟩ | ⟨value, later, rfl, ⟨found, hfound, rfl, rfl⟩ | ⟨hsound, hlater⟩⟩
    · exact .inl ⟨_, .signersRefused fault, rfl⟩
    · exact .inl ⟨_, .signers hfound, rfl⟩
    · exact .inr ⟨(), later, hsound, rfl, hlater⟩
  | note text =>
    obtain ⟨_, later, rfl, hlater⟩ := Script.leads_ask_iff.mp h
    exact .inr ⟨(), later, trivial, rfl, hlater⟩

/-! ## Courses -/

/-- Along the stages of a course, events lead to an outcome: the first stage that fails ends it, and
a course whose stages are all passed comes to a value. -/
inductive Along {α : Type} (a : α) : List Passage → List Event → Outcome α → Prop
  | done : Along a [] [] (.done a)
  | stop {p : Passage} {rest : List Passage} {events : List Event} {f : Failure}
      (h : p.stage.Fails events f) : Along a (p :: rest) events (.failed f)
  | pass {p : Passage} {rest : List Passage} {events : List Event} {outcome : Outcome α}
      (h : p.stage.Sound) (hrest : Along a rest events outcome) :
      Along a (p :: rest) (p.events ++ events) outcome

/-- The steps of a course. -/
def steps (course : List Passage) : List Step := course.filterMap fun p => p.stage.step?

/-- The step of a first stage, if it is one, comes before those of the rest. -/
theorem steps_cons (p : Passage) (rest : List Passage) :
    steps (p :: rest) = p.stage.step?.toList ++ steps rest := by
  cases hstep : p.stage.step? <;> simp [steps, hstep]

section Along

variable {α : Type} {a : α} {course : List Passage} {events : List Event} {outcome : Outcome α}
  {f : Failure}

/-- At a stage that is passed, the step happens that the stage is. -/
theorem Passage.filterMap_step? (p : Passage) :
    p.events.filterMap Event.step? = p.stage.step?.toList := by
  obtain ⟨s, value⟩ := p
  cases s with
  | step failing c named => simp [events, Event.step?, Stage.step?, named]
  | _ => rfl

/-- At a stage that fails, the step happens that the stage is. -/
theorem Stage.Fails.filterMap_step? {s : Stage} (h : s.Fails events f) :
    events.filterMap Event.step? = s.step?.toList := by
  cases h with
  | @step failing c named fault => simp [Event.step?, Stage.step?, named]
  | _ => rfl

/-- A call that does not return is reported if errors of the adapter are causes of their reports. -/
theorem reportedBy_of_fault {c : Call} {report : AdapterError → Failure} {fault : Fault}
    {t : Thrown} (hcause : ∀ e, (report e).cause? = some (.adapter e))
    (h : Event.thrown? ⟨.call c, .error fault⟩ = some t) : t.ReportedBy (fault.failure report) := by
  cases fault with
  | cancelled cancellation =>
    cases h
    rfl
  | raised e =>
    cases h
    exact hcause e

/-- The failure of a stage reports what was thrown at it. -/
theorem Stage.Fails.reports {s : Stage} (h : s.Fails events f) {e : Event} (he : e ∈ events)
    {t : Thrown} (ht : e.thrown? = some t) : t.ReportedBy f := by
  cases h with
  | noSigners h => cases he
  | step fault | operationsRefused fault | signersRefused fault =>
    obtain rfl := List.mem_singleton.mp he
    exact reportedBy_of_fault (fun _ => rfl) ht
  | operations hfound | signers hfound =>
    obtain rfl := List.mem_singleton.mp he
    simp only [Event.thrown?, hfound, Thrown.found?] at ht
    cases ht
    rfl

/-- The steps that are taken along a course are its first ones. -/
theorem Along.steps_prefix (h : Along a course events outcome) :
    events.filterMap Event.step? <+: steps course := by
  induction h with
  | done => exact List.nil_prefix
  | stop h =>
    rw [h.filterMap_step?, steps_cons]
    exact List.prefix_append ..
  | pass hsound hrest ih =>
    rw [List.filterMap_append, Passage.filterMap_step?, steps_cons]
    exact (List.prefix_append_right_inj _).mpr ih

/-- A failure along a course is that of its first stage that fails: all stages before it were
passed, and nothing happens after it. -/
theorem Along.exists_stage (h : Along a course events (.failed f)) :
    ∃ passed p later last, course = passed ++ p :: later ∧ (∀ q ∈ passed, q.stage.Sound) ∧
      events = passed.flatMap Passage.events ++ last ∧ p.stage.Fails last f := by
  induction course generalizing events with
  | nil => cases h
  | cons p rest ih =>
    cases h with
    | stop h => exact ⟨[], p, rest, events, rfl, List.forall_mem_nil _, rfl, h⟩
    | pass hsound hrest =>
      obtain ⟨passed, q, later, last, rfl, hpassed, rfl, hfails⟩ := ih hrest
      exact ⟨p :: passed, q, later, last, rfl, List.forall_mem_cons.mpr ⟨hsound, hpassed⟩,
        by simp, hfails⟩

/-- A step that is none of the first stages is taken only after all of these were passed, and a
value is come to only then. -/
theorem Along.passed {front back : List Passage} (h : Along a (front ++ back) events outcome)
    (hbeyond : (∃ b, outcome = .done b) ∨
      ∃ step ∈ events.filterMap Event.step?, step ∉ steps front) :
    (∀ p ∈ front, p.stage.Sound) ∧ front.flatMap Passage.events <+: events := by
  induction front generalizing events with
  | nil => exact ⟨List.forall_mem_nil _, List.nil_prefix⟩
  | cons p front ih =>
    simp only [steps_cons, List.mem_append, not_or] at hbeyond
    cases h with
    | stop h =>
      rw [h.filterMap_step?] at hbeyond
      rcases hbeyond with ⟨b, ⟨⟩⟩ | ⟨step, hstep, hnot, -⟩
      exact absurd hstep hnot
    | pass hsound hrest =>
      rw [List.filterMap_append, p.filterMap_step?] at hbeyond
      obtain ⟨hfront, hevents⟩ := ih hrest <| hbeyond.imp_right fun ⟨step, hstep, hnot, hlater⟩ =>
        ⟨step, (List.mem_append.mp hstep).resolve_left hnot, hlater⟩
      exact ⟨List.forall_mem_cons.mpr ⟨hsound, hfront⟩,
        (List.prefix_append_right_inj p.events).mpr hevents⟩

end Along

/-- A script goes through stages one after another. Which stages these are depends on what came of
the earlier ones; its courses are all that there can be, with the values that they come to. -/
inductive Staged {α : Type} : Script α → (List Passage → α → Prop) → Prop
  | done (a : α) : Staged (.done a) fun course b => course = [] ∧ b = a
  | stage (s : Stage) {next : s.Value → Script α} {courses : s.Value → List Passage → α → Prop}
      (h : ∀ value, Staged (next value) (courses value)) :
      Staged (s.script.bind next) fun course b =>
        ∃ value rest, course = ⟨s, value⟩ :: rest ∧ courses value rest b

section Staged

variable {α : Type} {script : Script α} {courses : List Passage → α → Prop}

/-- Every staged script has some course. -/
theorem Staged.exists_course (h : Staged script courses) : ∃ course a, courses course a := by
  induction h with
  | done a => exact ⟨[], a, rfl, rfl⟩
  | stage s h ih =>
    obtain ⟨value⟩ : Nonempty s.Value := inferInstance
    obtain ⟨rest, a, hrest⟩ := ih value
    exact ⟨_, a, value, rest, rfl, hrest⟩

/-- Every path of a script that goes through stages is along one of its courses. -/
theorem Staged.along (h : Staged script courses) {events : List Event} {outcome : Outcome α}
    (hleads : script.Leads events outcome) : ∃ course a, courses course a ∧
      Along a course events outcome := by
  induction h generalizing events with
  | done a =>
    obtain ⟨rfl, rfl⟩ := Script.leads_done_iff.mp hleads
    exact ⟨[], a, ⟨rfl, rfl⟩, .done⟩
  | stage s h ih =>
    rcases s.leads_bind hleads with ⟨f, hfails, rfl⟩ | ⟨value, later, hsound, rfl, hlater⟩
    · -- the stages after the one that fails are never entered, so any will do
      obtain ⟨_, a, value, rest, rfl, hrest⟩ := (Staged.stage s h).exists_course
      exact ⟨_, a, ⟨value, rest, rfl, hrest⟩, .stop hfails⟩
    · obtain ⟨rest, a, hrest, halong⟩ := ih value hlater
      exact ⟨_, a, ⟨value, rest, rfl, hrest⟩, .pass hsound halong⟩

end Staged

/-! ## Construction -/

namespace Replies

/-- The stages from the intent to a draft that has been checked. -/
def drafting (r : Replies) (network : NetworkIdentifier) (intent : List Operation) : List Passage :=
  [⟨.step .preprocess (.preprocess network intent) rfl, r.request⟩,
    ⟨.step .metadata (.metadata network r.request) rfl, r.metadata⟩,
    ⟨.step .payloads (.payloads network intent r.metadata) rfl, r.unsigned⟩,
    ⟨.step (.parse false) (.parse network false r.unsigned.content) rfl, r.draft⟩,
    ⟨.noSigners r.draft.signers, ()⟩,
    ⟨.operations false intent r.draft.operations, ()⟩]

/-- The stages from there to a signed transaction that has been checked. -/
def signing (r : Replies) (network : NetworkIdentifier) (intent : List Operation) : List Passage :=
  [⟨.note s!"Unsigned transaction verified, signing {r.unsigned.payloads.length} payloads", ()⟩,
    ⟨.step .sign (.sign r.unsigned.payloads) rfl, r.signatures⟩,
    ⟨.step .combine (.combine network r.unsigned.content r.signatures) rfl, r.content⟩,
    ⟨.step (.parse true) (.parse network true r.content) rfl, r.parsed⟩,
    ⟨.operations true intent r.parsed.operations, ()⟩,
    ⟨.signers r.unsigned.payloads r.parsed.signers, ()⟩]

/-- The stages of a construction with these replies. -/
def course (r : Replies) (network : NetworkIdentifier) (intent : List Operation) : List Passage :=
  r.drafting network intent ++ r.signing network intent ++
    [⟨.step .hash (.hash network r.content) rfl, r.identifier⟩]

end Replies

/-- A transaction is constructed along the stages of some replies. -/
theorem createTransaction_along {intent : List Operation} {events : List Event}
    {outcome : Outcome Transaction} (h : (createTransaction settings intent).Leads events outcome) :
    ∃ r : Replies, Along r.transaction (r.course settings.network intent) events outcome := by
  have hstaged : Staged (createTransaction settings intent) _ :=
    .stage (.step .preprocess (.preprocess settings.network intent) rfl) fun request =>
    .stage (.step .metadata (.metadata settings.network request) rfl) fun metadata =>
    .stage (.step .payloads (.payloads settings.network intent metadata) rfl) fun unsigned =>
    .stage (.step (.parse false) (.parse settings.network false unsigned.content) rfl) fun draft =>
    .stage (.noSigners draft.signers) fun _ =>
    .stage (.operations false intent draft.operations) fun _ =>
    .stage (.note _) fun _ =>
    .stage (.step .sign (.sign unsigned.payloads) rfl) fun signatures =>
    .stage (.step .combine (.combine settings.network unsigned.content signatures) rfl)
      fun content =>
    .stage (.step (.parse true) (.parse settings.network true content) rfl) fun parsed =>
    .stage (.operations true intent parsed.operations) fun _ =>
    .stage (.signers unsigned.payloads parsed.signers) fun _ =>
    .stage (.step .hash (.hash settings.network content) rfl) fun identifier =>
    .done (⟨identifier, content⟩ : Transaction)
  obtain ⟨course, a, hcourse, halong⟩ := hstaged.along h
  obtain ⟨request, _, rfl, metadata, _, rfl, unsigned, _, rfl, draft, _, rfl, hcourse⟩ := hcourse
  obtain ⟨_, _, rfl, _, _, rfl, _, _, rfl, signatures, _, rfl, content, _, rfl, hcourse⟩ := hcourse
  obtain ⟨parsed, _, rfl, _, _, rfl, _, _, rfl, identifier, _, rfl, rfl, rfl⟩ := hcourse
  exact ⟨⟨request, metadata, unsigned, draft, signatures, content, parsed, identifier⟩, halong⟩

/-- If all stages up to the draft are sound, nobody has signed early and the draft was checked. -/
theorem Replies.drafting_sound {r : Replies} {network : NetworkIdentifier} {intent : List Operation}
    (h : ∀ p ∈ r.drafting network intent, p.stage.Sound) : r.draft.signers = [] ∧
      Matching.checkOperations .lenient intent r.draft.operations = .ok () := by
  simpa [drafting, Stage.Sound] using h

/-- If all stages of both halves are sound, the replies pass all checks. -/
theorem Replies.passed_of_sound {r : Replies} {network : NetworkIdentifier}
    {intent : List Operation}
    (h : ∀ p ∈ r.drafting network intent ++ r.signing network intent, p.stage.Sound) :
    r.Passed intent := by
  obtain ⟨hdrafting, hsigning⟩ := List.forall_mem_append.mp h
  obtain ⟨hearly, hdraft⟩ := drafting_sound hdrafting
  obtain ⟨hparsed, hsigners⟩ :
      Matching.checkOperations .lenient intent r.parsed.operations = .ok () ∧
        Matching.checkSigners r.unsigned.payloads r.parsed.signers = .ok () := by
    simpa [signing, Stage.Sound] using hsigning
  exact ⟨hearly, hdraft, hparsed, hsigners⟩

/-- Whatever the adapter does, the steps of a construction are the first ones of a fixed order, each
taken once. If no transaction is returned, the failure is that of the first stage that fails: it
reports what was thrown there, and nothing happens afterwards. Nothing is signed unless the draft
was checked, and nothing is named or returned unless all checks were passed. -/
theorem createTransaction_firstFailure {σ : Type} (answer : Environment σ) (settings : Settings)
    (intent : List Operation) (start : σ) :
    let run := (createTransaction settings intent).run answer start
    (∀ e ∈ run.events, e.request.InConstruction) ∧
    run.events.filterMap Event.step? <+: Step.order ∧ (run.events.filterMap Event.step?).Nodup ∧
    ((∃ transaction, run.outcome = .done transaction) ∨
      ∃ (f : Failure) (r : Replies) (passed later : List Passage) (p : Passage) (last : List Event),
        run.outcome = .failed f ∧ r.course settings.network intent = passed ++ p :: later ∧
        (∀ q ∈ passed, q.stage.Sound) ∧ run.events = passed.flatMap Passage.events ++ last ∧
        p.stage.Fails last f ∧ ∀ e ∈ last, ∀ t, e.thrown? = some t → t.ReportedBy f) ∧
    (.sign ∈ run.events.filterMap Event.step? →
      ∃ r : Replies, (r.drafting settings.network intent).flatMap Passage.events <+: run.events ∧
        r.draft.signers = [] ∧
        Matching.checkOperations .lenient intent r.draft.operations = .ok ()) ∧
    ((∃ transaction, run.outcome = .done transaction) ∨
        .hash ∈ run.events.filterMap Event.step? →
      ∃ r : Replies, (r.drafting settings.network intent ++
          r.signing settings.network intent).flatMap Passage.events <+: run.events ∧
        r.Passed intent) := by
  intro run
  have hleads := Script.leads_run answer (createTransaction settings intent) start
  obtain ⟨r, halong⟩ := createTransaction_along hleads
  have hsteps : run.events.filterMap Event.step? <+: Step.order := halong.steps_prefix
  refine ⟨(createTransaction_inConstruction intent).of_leads hleads, hsteps,
    hsteps.sublist.nodup (by decide), ?_, fun hsign => ?_, fun hnamed => ?_⟩
  · cases houtcome : run.outcome with
    | done transaction => exact .inl ⟨transaction, rfl⟩
    | failed f =>
      rw [show ((createTransaction settings intent).run answer start).outcome = _ from houtcome]
        at halong
      obtain ⟨passed, p, later, last, hcourse, hpassed, hevents, hfails⟩ := halong.exists_stage
      exact .inr ⟨f, r, passed, later, p, last, rfl, hcourse, hpassed, hevents, hfails,
        fun _ he _ => hfails.reports he⟩
    | unfinished =>
      rw [show ((createTransaction settings intent).run answer start).outcome = _ from houtcome]
        at hleads
      exact absurd hleads (neverUnfinished_compositional.createTransaction intent _)
  · have hbeyond : Step.sign ∉ [Step.preprocess, .metadata, .payloads, .parse false] := by decide
    rw [Replies.course, List.append_assoc] at halong
    obtain ⟨hsound, hevents⟩ := halong.passed (.inr ⟨_, hsign, hbeyond⟩)
    exact ⟨r, hevents, Replies.drafting_sound hsound⟩
  · have hbeyond : Step.hash ∉ [Step.preprocess, .metadata, .payloads, .parse false, .sign,
        .combine, .parse true] := by decide
    obtain ⟨hsound, hevents⟩ := halong.passed (hnamed.imp_right fun h => ⟨_, h, hbeyond⟩)
    exact ⟨r, hevents, Replies.passed_of_sound hsound⟩

/-- In a rehearsal the signatures of a checked draft cannot be combined, and the failure says so; in
another a transaction is returned that has passed all checks. -/
theorem createTransaction_firstFailure_rehearsed :
    let settings := plainSettings .account
    let error : AdapterError := ⟨.runtime, "no node"⟩
    let start := { State.holding [] with faults := [("combine", ⟨.raised error, none⟩)] }
    let run := (createTransaction settings plainIntent).run (answer .plain) start
    (run.outcome = .failed (.step .combine error) ∧
      (∃ (r : Replies) (passed later : List Passage) (p : Passage) (last : List Event),
        r.course settings.network plainIntent = passed ++ p :: later ∧
        run.events = passed.flatMap Passage.events ++ last ∧
        p.stage.Fails last (.step .combine error)) ∧
      ∃ r : Replies, (r.drafting settings.network plainIntent).flatMap Passage.events <+:
        run.events ∧ r.draft.signers = []) ∧
    ∃ r : Replies, r.Passed plainIntent := by
  intro settings error start run
  constructor
  · have houtcome : run.outcome = .failed (.step .combine error) := by decide +kernel
    have hsign : Step.sign ∈ run.events.filterMap Event.step? := by decide +kernel
    obtain ⟨-, -, -, hfirst, hsigned, -⟩ :=
      createTransaction_firstFailure (answer .plain) settings plainIntent start
    refine ⟨houtcome, ?_, ?_⟩
    · rcases hfirst with
        ⟨_, hdone⟩ | ⟨f, r, passed, later, p, last, hfailed, hcourse, -, hevents, hfails, -⟩
      · cases houtcome.symm.trans hdone
      · cases houtcome.symm.trans hfailed
        exact ⟨r, passed, later, p, last, hcourse, hevents, hfails⟩
    · obtain ⟨r, hprefix, hearly, -⟩ := hsigned hsign
      exact ⟨r, hprefix, hearly⟩
  · let run := (createTransaction settings plainIntent).run (answer .plain) (.holding [])
    have hdone : run.outcome.any (fun _ => true) = true := by decide +kernel
    obtain ⟨transaction, hrun, -⟩ := Run.exists_of_any hdone
    obtain ⟨-, -, -, -, -, hnamed⟩ :=
      createTransaction_firstFailure (answer .plain) settings plainIntent (.holding [])
    obtain ⟨r, -, hpassed⟩ := hnamed (.inl ⟨transaction, congrArg Run.outcome hrun⟩)
    exact ⟨r, hpassed⟩

/-- In a rehearsal the first call is cancelled: the construction fails, but with no step. -/
theorem createTransaction_cancelled :
    let start := { State.holding [] with faults := [("preprocess", ⟨.cancelled ⟨"stop"⟩, none⟩)] }
    let run := (createTransaction (plainSettings .account) plainIntent).run (answer .plain) start
    run.events.filterMap Event.step? = [.preprocess] ∧
      run.outcome = .failed (.cancelled ⟨"stop"⟩) ∧
      ∀ failing e, run.outcome ≠ .failed (.step failing e) := by
  intro start run
  have hsteps : run.events.filterMap Event.step? = [.preprocess] := by decide +kernel
  have houtcome : run.outcome = .failed (.cancelled ⟨"stop"⟩) := by decide +kernel
  refine ⟨hsteps, houtcome, fun failing e hstep => ?_⟩
  cases houtcome.symm.trans hstep

end Drive

end TransferDrill
