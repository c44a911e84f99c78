import SupplierGateway.Proofs.Call.Verdicts

/-!
# Transparent interceptors

An interceptor is transparent when it forwards every request unchanged and returns every outcome
unchanged.  Logging and recording are transparent; their emissions are not restricted.

A call through transparent interceptors enters each of them once, in the order of the list, goes to
the transport once, and leaves each of them once, in reverse order.  Its result is the reply of the
transport within the deadline.  In a chain with other interceptors, the transparent ones may be
exchanged for others without a change to the result or to the request that the transport receives.

Nothing is stated about the effects of interceptors that are not transparent, which may send another
request, or none.

* `Interceptor.Transparent` — the interceptor changes neither requests nor outcomes;
* `enterAll_of_transparent` and `leaveAll_waiting` — requests and outcomes pass unchanged;
* `Pipeline.Passing` and `Pipeline.passing_of_transparent` — a call through transparent interceptors;
* `Pipeline.interveningOnly` — a pipeline without its transparent interceptors;
* `send_interveningOnly` and `execute_interveningOnly` — calls through it have the same result;
* `Pipeline.transparent_interceptors_compose` — both properties;
* `Pipeline.two_probes_and_a_stamp` — probes around the standard interceptors, and a stamp before them.
-/

namespace SupplierGateway
namespace Call

open Http (Delivery Outcome Reply Request Response Transport)

/-! ## Transparent interceptors -/

namespace Interceptor

/-- The interceptor forwards every request unchanged, and returns every outcome unchanged. -/
structure Transparent (i : Interceptor) : Prop where
  forwards : ∀ ctx arrival, (i.enter ctx arrival).2 = .forward arrival.request
  returns : ∀ ctx arrival clockMs o, (i.leave ctx arrival clockMs o).2 = o

theorem transparent_logging : logging.Transparent where
  forwards _ _ := rfl
  returns _ _ _ _ := rfl

theorem transparent_recording : recording.Transparent where
  forwards _ _ := rfl
  returns _ _ _ _ := rfl

/-- The emissions of interceptors when a request enters them, the first one first. -/
def entering (ctx : Context) (arrival : Arrival) (is : List Interceptor) : List Emission :=
  is.flatMap fun i => (i.enter ctx arrival).1

/-- The emissions of interceptors when an outcome leaves them, the last one first. -/
def leaving (ctx : Context) (arrival : Arrival) (clockMs : Nat) (o : Outcome)
    (is : List Interceptor) : List Emission :=
  is.reverse.flatMap fun i => (i.leave ctx arrival clockMs o).1

/-- The emissions of interceptors when a call is abandoned, the last one first. -/
def abandoning (ctx : Context) (arrival : Arrival) (clockMs : Nat) (is : List Interceptor) :
    List Emission :=
  is.reverse.flatMap fun i => i.abandon ctx arrival clockMs

end Interceptor

/-- The frames of interceptors that have all forwarded the same request, innermost first. -/
def waiting (arrival : Arrival) (is : List Interceptor) : List Frame :=
  is.reverse.map fun i => { interceptor := i, arrival }

theorem waiting_cons (arrival : Arrival) (i : Interceptor) (is : List Interceptor)
    (frames : List Frame) :
    waiting arrival (i :: is) ++ frames =
      waiting arrival is ++ { interceptor := i, arrival } :: frames := by
  simp [waiting]

/-! ## Requests and outcomes -/

/-- A transparent interceptor forwards a request unchanged, and its frame waits for the outcome. -/
theorem enterAll_cons_of_transparent {i : Interceptor} (htransparent : i.Transparent)
    (ctx : Context) (clockMs : Nat) (rest : List Interceptor) (frames : List Frame) (r : Request) :
    enterAll ctx clockMs (i :: rest) frames r =
      { enterAll ctx clockMs rest
          ({ interceptor := i, arrival := { request := r, clockMs } } :: frames) r with
        emissions := (i.enter ctx { request := r, clockMs }).1 ++
          (enterAll ctx clockMs rest
            ({ interceptor := i, arrival := { request := r, clockMs } } :: frames) r).emissions } := by
  have hforwards := htransparent.forwards ctx { request := r, clockMs }
  simp only [enterAll]
  generalize i.enter ctx { request := r, clockMs } = entered at hforwards ⊢
  obtain ⟨emissions, passage⟩ := entered
  obtain rfl : passage = .forward r := hforwards
  rfl

/-- A transparent interceptor returns an outcome unchanged. -/
theorem leaveAll_cons_of_transparent {f : Frame} (htransparent : f.interceptor.Transparent)
    (ctx : Context) (clockMs : Nat) (rest : List Frame) (o : Outcome) :
    leaveAll ctx clockMs (f :: rest) o =
      ((f.interceptor.leave ctx f.arrival clockMs o).1 ++ (leaveAll ctx clockMs rest o).1,
        (leaveAll ctx clockMs rest o).2) := by
  simp only [leaveAll, htransparent.returns]

/-- A request passes transparent interceptors unchanged.  Each is entered once, in the order of the
list, and the frames of all of them wait. -/
theorem enterAll_of_transparent {is : List Interceptor} (htransparent : ∀ i ∈ is, i.Transparent)
    (ctx : Context) (clockMs : Nat) (frames : List Frame) (r : Request) :
    enterAll ctx clockMs is frames r =
      { emissions := Interceptor.entering ctx { request := r, clockMs } is
        frames := waiting { request := r, clockMs } is ++ frames
        passage := .forward r } := by
  -- The frames outside grow on the way in, so the induction is for any of them.
  induction is generalizing frames with
  | nil => rfl
  | cons i rest ih =>
      have hi : i.Transparent := htransparent i List.mem_cons_self
      have hrest : ∀ j ∈ rest, j.Transparent := fun j hj =>
        htransparent j (List.mem_cons_of_mem i hj)
      rw [enterAll_cons_of_transparent hi, ih hrest, waiting_cons]
      rfl

/-- An outcome passes the frames of transparent interceptors unchanged. -/
theorem leaveAll_of_transparent {frames : List Frame}
    (htransparent : ∀ f ∈ frames, f.interceptor.Transparent) (ctx : Context) (clockMs : Nat)
    (o : Outcome) :
    leaveAll ctx clockMs frames o =
      (frames.flatMap fun f => (f.interceptor.leave ctx f.arrival clockMs o).1, o) := by
  induction frames with
  | nil => rfl
  | cons f rest ih =>
      have hf : f.interceptor.Transparent := htransparent f List.mem_cons_self
      have hrest : ∀ g ∈ rest, g.interceptor.Transparent := fun g hg =>
        htransparent g (List.mem_cons_of_mem f hg)
      rw [leaveAll_cons_of_transparent hf, ih hrest]
      rfl

/-- Transparent interceptors that wait are left once each, in the reverse order of the list. -/
theorem leaveAll_waiting {is : List Interceptor} (htransparent : ∀ i ∈ is, i.Transparent)
    (ctx : Context) (arrival : Arrival) (clockMs : Nat) (o : Outcome) :
    leaveAll ctx clockMs (waiting arrival is) o =
      (Interceptor.leaving ctx arrival clockMs o is, o) := by
  have hframes : ∀ f ∈ waiting arrival is, f.interceptor.Transparent := by
    intro f hf
    obtain ⟨i, hi, rfl⟩ := List.mem_map.mp hf
    exact htransparent i (List.mem_reverse.mp hi)
  rw [leaveAll_of_transparent hframes, waiting, List.flatMap_map]
  rfl

theorem abandonAll_waiting (ctx : Context) (arrival : Arrival) (clockMs : Nat)
    (is : List Interceptor) :
    abandonAll ctx clockMs (waiting arrival is) =
      Interceptor.abandoning ctx arrival clockMs is := by
  rw [abandonAll, waiting, List.flatMap_map]
  rfl

/-! ## A call through transparent interceptors -/

theorem withinDeadline_of_le {timeoutMs : Nat} {reply : Reply} (hintime : reply.latency ≤ timeoutMs) :
    withinDeadline timeoutMs reply = (reply.latency, reply.delivery) :=
  if_pos hintime

theorem withinDeadline_of_lt {timeoutMs : Nat} {reply : Reply} (hlate : timeoutMs < reply.latency) :
    withinDeadline timeoutMs reply = (timeoutMs, .outcome (.error (deadlineError timeoutMs))) :=
  if_neg (Nat.not_le.mpr hlate)

namespace Pipeline

/-- The arrival of a request at every interceptor, when all are transparent. -/
def arrival (p : Pipeline) (clockMs : Nat) (r : Request) : Arrival :=
  { request := p.outgoing r, clockMs }

theorem send_of_transparent {p : Pipeline} (htransparent : ∀ i ∈ p.interceptors, i.Transparent)
    (clockMs : Nat) (t : Transport) (r : Request) :
    p.send clockMs t r =
      let (latency, delivery) :=
        withinDeadline p.context.timeoutMs.toNat (t.send (p.outgoing r)).2
      ((t.send (p.outgoing r)).1,
        Interceptor.entering p.context (p.arrival clockMs r) p.interceptors,
        .inFlight
          { context := p.context
            frames := waiting (p.arrival clockMs r) p.interceptors
            latency
            delivery }) := by
  rw [send, enterAll_of_transparent htransparent, List.append_nil]
  rfl

/-- A call with an outcome within the deadline. -/
theorem await_of_outcome {p : Pipeline} (htransparent : ∀ i ∈ p.interceptors, i.Transparent)
    (clockMs : Nat) (t : Transport) (r : Request) {latency : Nat} {o : Outcome}
    (hreply : withinDeadline p.context.timeoutMs.toNat (t.send (p.outgoing r)).2 =
      (latency, .outcome o)) :
    p.await clockMs none t r =
      ((t.send (p.outgoing r)).1,
        Interceptor.entering p.context (p.arrival clockMs r) p.interceptors ++
          Interceptor.leaving p.context (p.arrival clockMs r) (clockMs + latency) o
            p.interceptors,
        some (.outcome o)) := by
  have hleave := leaveAll_waiting htransparent p.context (p.arrival clockMs r)
    (clockMs + latency) o
  simp only [await, send_of_transparent htransparent, hreply, Option.all_none, if_true,
    InFlight.settle, hleave]

/-- A call that crashes within the deadline. -/
theorem await_of_crash {p : Pipeline} (htransparent : ∀ i ∈ p.interceptors, i.Transparent)
    (clockMs : Nat) (t : Transport) (r : Request) {latency : Nat} {text : String}
    (hreply : withinDeadline p.context.timeoutMs.toNat (t.send (p.outgoing r)).2 =
      (latency, .crash text)) :
    p.await clockMs none t r =
      ((t.send (p.outgoing r)).1,
        Interceptor.entering p.context (p.arrival clockMs r) p.interceptors ++
          Interceptor.abandoning p.context (p.arrival clockMs r) (clockMs + latency)
            p.interceptors,
        some (.crash text)) := by
  simp only [await, send_of_transparent htransparent, hreply, Option.all_none, if_true,
    InFlight.settle, abandonAll_waiting]

/-- The transport takes the request once, for any reply. -/
theorem transport_await {p : Pipeline} (htransparent : ∀ i ∈ p.interceptors, i.Transparent)
    (clockMs : Nat) (t : Transport) (r : Request) :
    (p.await clockMs none t r).1 = (t.send (p.outgoing r)).1 := by
  rw [await, send_of_transparent htransparent]
  rfl

/-- The course of a call through the interceptors of a pipeline and back, if it is not abandoned.
The reply of the transport arrives in time, or is late, or is a crash in time. -/
structure Passing (p : Pipeline) (clockMs : Nat) (t : Transport) (r : Request) : Prop where
  /-- The interceptors are entered once each, in the order of the list.  Then the transport is called,
  and while it has not replied all interceptors wait, the last one innermost. -/
  entered : ∃ latency delivery, p.send clockMs t r =
    ((t.send (p.outgoing r)).1,
      Interceptor.entering p.context (p.arrival clockMs r) p.interceptors,
      .inFlight
        { context := p.context
          frames := waiting (p.arrival clockMs r) p.interceptors
          latency
          delivery })
  /-- The transport takes one request, which is the caller's up to the time limit. -/
  sentOnce : (p.await clockMs none t r).1 =
      (t.send { r with timeoutMs := p.context.timeoutMs }).1 ∧
    (p.await clockMs none t r).1.log =
      t.log ++ [t.address { r with timeoutMs := p.context.timeoutMs }]
  /-- The result of the call is the outcome that arrives in time, and the interceptors are left once
  each with that outcome, in reverse order. -/
  inTime : ∀ o, (t.send (p.outgoing r)).2.Arrives p.context.timeoutMs.toNat o →
    (p.await clockMs none t r).2 =
      (Interceptor.entering p.context (p.arrival clockMs r) p.interceptors ++
        Interceptor.leaving p.context (p.arrival clockMs r)
          (clockMs + (t.send (p.outgoing r)).2.latency) o p.interceptors,
        some (.outcome o))
  /-- When the reply is late, a timeout at the deadline takes its place. -/
  late : p.context.timeoutMs.toNat < (t.send (p.outgoing r)).2.latency →
    ∃ e : Http.TransportError, e.kind = .timeout ∧
      e.message = "deadline exceeded after " ++ toString p.context.timeoutMs.toNat ++ " ms" ∧
      (p.await clockMs none t r).2 =
        (Interceptor.entering p.context (p.arrival clockMs r) p.interceptors ++
          Interceptor.leaving p.context (p.arrival clockMs r)
            (clockMs + p.context.timeoutMs.toNat) (.error e) p.interceptors,
          some (.outcome (.error e)))
  /-- When the transport crashes before the deadline, the interceptors abandon the call once each,
  in reverse order, and the result of the call is the crash. -/
  crashed : ∀ text, (t.send (p.outgoing r)).2.latency ≤ p.context.timeoutMs.toNat →
    (t.send (p.outgoing r)).2.delivery = .crash text →
    (p.await clockMs none t r).2 =
      (Interceptor.entering p.context (p.arrival clockMs r) p.interceptors ++
        Interceptor.abandoning p.context (p.arrival clockMs r)
          (clockMs + (t.send (p.outgoing r)).2.latency) p.interceptors,
        some (.crash text))

theorem passing_of_transparent {p : Pipeline} (htransparent : ∀ i ∈ p.interceptors, i.Transparent)
    (clockMs : Nat) (t : Transport) (r : Request) : p.Passing clockMs t r where
  entered := ⟨_, _, send_of_transparent htransparent clockMs t r⟩
  sentOnce := by
    have htransport := transport_await htransparent clockMs t r
    refine ⟨htransport, ?_⟩
    rw [htransport]
    exact Transport.log_send t (p.outgoing r)
  inTime o harrives := by
    have hreply : withinDeadline p.context.timeoutMs.toNat (t.send (p.outgoing r)).2 =
        ((t.send (p.outgoing r)).2.latency, .outcome o) := by
      rw [withinDeadline_of_le harrives.1, harrives.2]
    rw [await_of_outcome htransparent clockMs t r hreply]
  late hlate := by
    rw [await_of_outcome htransparent clockMs t r (withinDeadline_of_lt hlate)]
    exact ⟨_, rfl, rfl, rfl⟩
  crashed text hintime hcrash := by
    have hreply : withinDeadline p.context.timeoutMs.toNat (t.send (p.outgoing r)).2 =
        ((t.send (p.outgoing r)).2.latency, .crash text) := by
      rw [withinDeadline_of_le hintime, hcrash]
    rw [await_of_crash htransparent clockMs t r hreply]

end Pipeline

/-! ## Transparent interceptors among others -/

open scoped Classical in
/-- The interceptor is not transparent. -/
noncomputable def Interceptor.intervenes (i : Interceptor) : Bool := !decide i.Transparent

theorem Interceptor.intervenes_eq_false {i : Interceptor} :
    i.intervenes = false ↔ i.Transparent := by
  simp [intervenes]

theorem Interceptor.intervenes_eq_true {i : Interceptor} :
    i.intervenes = true ↔ ¬ i.Transparent := by
  simp [intervenes]

/-- The frames of interceptors that are not transparent. -/
noncomputable def interveningFrames (frames : List Frame) : List Frame :=
  frames.filter fun f => f.interceptor.intervenes

@[simp] theorem interveningFrames_nil : interveningFrames [] = [] := rfl

theorem interveningFrames_cons_of_transparent {f : Frame} (htransparent : f.interceptor.Transparent)
    (rest : List Frame) : interveningFrames (f :: rest) = interveningFrames rest :=
  List.filter_cons_of_neg (by rw [Interceptor.intervenes_eq_true]; exact not_not_intro htransparent)

theorem interveningFrames_cons_of_not {f : Frame} (hintervenes : ¬ f.interceptor.Transparent)
    (rest : List Frame) : interveningFrames (f :: rest) = f :: interveningFrames rest :=
  List.filter_cons_of_pos (Interceptor.intervenes_eq_true.mpr hintervenes)

/-- Without the transparent interceptors a request is forwarded or answered alike, and the other
frames wait. -/
theorem enterAll_intervening (ctx : Context) (clockMs : Nat) (is : List Interceptor)
    (frames : List Frame) (r : Request) :
    (enterAll ctx clockMs (is.filter Interceptor.intervenes) (interveningFrames frames) r).passage =
        (enterAll ctx clockMs is frames r).passage ∧
      (enterAll ctx clockMs (is.filter Interceptor.intervenes)
          (interveningFrames frames) r).frames =
        interveningFrames (enterAll ctx clockMs is frames r).frames := by
  induction is generalizing frames r with
  | nil => exact ⟨rfl, rfl⟩
  | cons i rest ih =>
      let frame : Frame := { interceptor := i, arrival := { request := r, clockMs } }
      by_cases hi : i.Transparent
      · have hframes : interveningFrames (frame :: frames) = interveningFrames frames :=
          interveningFrames_cons_of_transparent hi frames
        have hfilter : (i :: rest).filter Interceptor.intervenes =
            rest.filter Interceptor.intervenes :=
          List.filter_cons_of_neg (by simp [Interceptor.intervenes_eq_false.mpr hi])
        rw [enterAll_cons_of_transparent hi, hfilter, ← hframes]
        exact ih (frame :: frames) r
      · have hframes : interveningFrames (frame :: frames) = frame :: interveningFrames frames :=
          interveningFrames_cons_of_not hi frames
        rw [List.filter_cons_of_pos (Interceptor.intervenes_eq_true.mpr hi)]
        simp only [enterAll]
        -- Both chains meet the interceptor with the same request, so it does the same in both.
        split
        · exact ⟨rfl, rfl⟩
        · next emissions next henter =>
          rw [← hframes]
          exact ih (frame :: frames) next

/-- Without the transparent interceptors the outcome is the same. -/
theorem leaveAll_intervening (ctx : Context) (clockMs : Nat) (frames : List Frame) (o : Outcome) :
    (leaveAll ctx clockMs (interveningFrames frames) o).2 = (leaveAll ctx clockMs frames o).2 := by
  induction frames generalizing o with
  | nil => rfl
  | cons f rest ih =>
      by_cases hf : f.interceptor.Transparent
      · rw [interveningFrames_cons_of_transparent hf, leaveAll_cons_of_transparent hf]
        exact ih o
      · rw [interveningFrames_cons_of_not hf]
        simp only [leaveAll]
        exact ih (f.interceptor.leave ctx f.arrival clockMs o).2

/-- A call in flight without the frames of transparent interceptors. -/
noncomputable def InFlight.interveningOnly (c : InFlight) : InFlight :=
  { c with frames := interveningFrames c.frames }

theorem InFlight.settle_interveningOnly (c : InFlight) (clockMs : Nat) :
    (c.interveningOnly.settle clockMs).2 = (c.settle clockMs).2 := by
  unfold settle interveningOnly
  cases c.delivery with
  | outcome o => exact congrArg Delivery.outcome (leaveAll_intervening c.context clockMs c.frames o)
  | crash text => rfl

/-- The result of sending a request, without the frames of transparent interceptors. -/
noncomputable def Sent.interveningOnly : Sent → Sent
  | settled o => .settled o
  | inFlight c => .inFlight c.interveningOnly

namespace Pipeline

/-- A pipeline without its transparent interceptors. -/
noncomputable def interveningOnly (p : Pipeline) : Pipeline :=
  { p with interceptors := p.interceptors.filter Interceptor.intervenes }

/-- Sending a request has the same result without the transparent interceptors. -/
theorem send_interveningOnly (p : Pipeline) (clockMs : Nat) (t : Transport) (r : Request) :
    (p.interveningOnly.send clockMs t r).1 = (p.send clockMs t r).1 ∧
      (p.interveningOnly.send clockMs t r).2.2 = (p.send clockMs t r).2.2.interveningOnly := by
  obtain ⟨hpassage, hframes⟩ :=
    enterAll_intervening p.context clockMs p.interceptors []
      { r with timeoutMs := p.context.timeoutMs }
  rw [interveningFrames_nil] at hpassage hframes
  simp only [send, interveningOnly, hpassage, hframes]
  split
  · next o hanswer =>
    exact ⟨rfl, congrArg Sent.settled (leaveAll_intervening _ _ _ o)⟩
  · exact ⟨rfl, rfl⟩

/-- The classified result of sending a request, and the transport after it.  There is no result when
the call is abandoned after `patience`. -/
def execute (p : Pipeline) (clockMs : Nat) (patience : Option Nat) (t : Transport) (r : Request) :
    Transport × Option (Attempt Response) :=
  ((p.await clockMs patience t r).1, (p.await clockMs patience t r).2.2.map response)

/-- The classified result is the same without the transparent interceptors. -/
theorem execute_interveningOnly (p : Pipeline) (clockMs : Nat) (patience : Option Nat)
    (t : Transport) (r : Request) :
    p.interveningOnly.execute clockMs patience t r = p.execute clockMs patience t r := by
  have hmissed := p.send_interveningOnly clockMs t r
  unfold execute await
  generalize p.send clockMs t r = sent at hmissed ⊢
  generalize p.interveningOnly.send clockMs t r = bare at hmissed ⊢
  obtain ⟨next, emissions, sent⟩ := sent
  obtain ⟨next', emissions', sent'⟩ := bare
  obtain ⟨rfl, rfl⟩ : next' = next ∧ sent' = sent.interveningOnly := hmissed
  cases sent with
  | settled o => rfl
  | inFlight c =>
      have hlatency : c.interveningOnly.latency = c.latency := rfl
      simp only [Sent.interveningOnly, hlatency]
      split
      · simp only [c.settle_interveningOnly]
      · rfl

/-- A list of transparent interceptors is empty when only the others are kept. -/
theorem filter_intervenes_of_transparent {is : List Interceptor}
    (htransparent : ∀ i ∈ is, i.Transparent) : is.filter Interceptor.intervenes = [] := by
  rw [List.filter_eq_nil_iff]
  intro i hi
  simp [Interceptor.intervenes_eq_false.mpr (htransparent i hi)]

/-- In any chain, transparent interceptors may be exchanged for others. -/
theorem execute_exchange {is js : List Interceptor} (his : ∀ i ∈ is, i.Transparent)
    (hjs : ∀ j ∈ js, j.Transparent) (context : Context) (before after : List Interceptor)
    (clockMs : Nat) (patience : Option Nat) (t : Transport) (r : Request) :
    execute { context, interceptors := before ++ is ++ after } clockMs patience t r =
      execute { context, interceptors := before ++ js ++ after } clockMs patience t r := by
  have hbare : interveningOnly { context, interceptors := before ++ is ++ after } =
      interveningOnly { context, interceptors := before ++ js ++ after } := by
    simp only [interveningOnly, List.filter_append, filter_intervenes_of_transparent his,
      filter_intervenes_of_transparent hjs]
  rw [← execute_interveningOnly, hbare, execute_interveningOnly]

/-! ## Both together -/

/-- Interceptors compose when they are transparent, as logging and recording are.

* A call through a list of them enters each once, in the order of the list, calls the transport once,
  with the time limit of the pipeline, and leaves each once, in reverse order.  Its result is the
  reply of the transport within the deadline.
* Anywhere in a chain, a list of them may be exchanged for another one, so that any may be added,
  left out or moved, without a change to the result or to the transport. -/
theorem transparent_interceptors_compose :
    Interceptor.logging.Transparent ∧ Interceptor.recording.Transparent ∧
    (∀ p : Pipeline, (∀ i ∈ p.interceptors, i.Transparent) →
      ∀ clockMs t r, p.Passing clockMs t r) ∧
    (∀ is js : List Interceptor, (∀ i ∈ is ++ js, i.Transparent) →
      ∀ context before after clockMs patience t r,
        execute { context, interceptors := before ++ is ++ after } clockMs patience t r =
          execute { context, interceptors := before ++ js ++ after } clockMs patience t r) := by
  refine ⟨Interceptor.transparent_logging, Interceptor.transparent_recording,
    fun p htransparent clockMs t r => passing_of_transparent htransparent clockMs t r, ?_⟩
  intro is js htransparent context before after clockMs patience t r
  have his : ∀ i ∈ is, i.Transparent := fun i hi => htransparent i (List.mem_append_left js hi)
  have hjs : ∀ j ∈ js, j.Transparent := fun j hj => htransparent j (List.mem_append_right is hj)
  exact execute_exchange his hjs context before after clockMs patience t r

end Pipeline

namespace Interceptor

/-- Notes when a request enters it and when an outcome leaves it. -/
def probe (name : String) : Interceptor where
  enter _ arrival := ([.note (name ++ " entered")], .forward arrival.request)
  leave _ _ _ o := ([.note (name ++ " left")], o)
  abandon _ _ _ := [.note (name ++ " abandoned")]

theorem transparent_probe (name : String) : (probe name).Transparent where
  forwards _ _ := rfl
  returns _ _ _ _ := rfl

/-- Puts a header on every request. -/
def stamp (name value : String) : Interceptor where
  enter _ arrival := ([], .forward (arrival.request.withHeader name value))
  leave _ _ _ o := ([], o)
  abandon _ _ _ := []

end Interceptor

namespace Pipeline

open Interceptor (probe stamp)

/-- The standard interceptors between two probes. -/
def probed : Pipeline where
  context := { phase := .booking, timeoutMs := 50 }
  interceptors := [probe "outer", .logging, .recording, probe "inner"]

theorem transparent_probed : ∀ i ∈ probed.interceptors, i.Transparent := by
  simp [probed, Interceptor.transparent_probe, Interceptor.transparent_logging,
    Interceptor.transparent_recording]

/-- The probes note that they are entered in order and left in reverse order, both when a booking is
answered at the last moment and when the answer is late by a millisecond.  Behind a stamp they may take
the place of the standard interceptors. -/
theorem two_probes_and_a_stamp :
    (∃ emissions,
      (probed.await 7 none
        (Operation.Context.answeringAfter 20 30 Operation.Context.booked)
        Operation.Context.bookingCall).2 =
          (emissions, some (.outcome (.ok (.ofJson 200 Operation.Context.booked)))) ∧
      Emission.notes emissions =
        ["outer entered", "inner entered", "inner left", "outer left"] ∧
      (Emission.records emissions).length = 1 ∧ (Emission.logs emissions).length = 2) ∧
    (∃ emissions e,
      (probed.await 7 none
        (Operation.Context.answeringAfter 20 31 Operation.Context.booked)
        Operation.Context.bookingCall).2 = (emissions, some (.outcome (.error e))) ∧
      e.message = "deadline exceeded after 50 ms" ∧
      Emission.notes emissions =
        ["outer entered", "inner entered", "inner left", "outer left"]) ∧
    ∀ t r,
      execute
        { context := probed.context
          interceptors := stamp "x-tenant" "a" :: Interceptor.standard } 7 none t r =
      execute
        { context := probed.context
          interceptors := [stamp "x-tenant" "a", probe "inner", probe "outer"] } 7 none t r := by
  obtain ⟨-, -, hpassing, hexchange⟩ := transparent_interceptors_compose
  have hpasses := fun second => hpassing probed transparent_probed 7
    (Operation.Context.answeringAfter 20 second Operation.Context.booked)
    Operation.Context.bookingCall
  refine ⟨?_, ?_, ?_⟩
  · exact ⟨_, (hpasses 30).inTime _ ⟨by decide, rfl⟩, by decide, by decide, by decide⟩
  · obtain ⟨e, -, hmessage, hawait⟩ := (hpasses 31).late (by decide)
    exact ⟨_, e, hawait, hmessage, rfl⟩
  · intro t r
    refine hexchange Interceptor.standard [probe "inner", probe "outer"] ?_ probed.context
      [stamp "x-tenant" "a"] [] 7 none t r
    simp [Interceptor.standard, Interceptor.transparent_probe, Interceptor.transparent_logging,
      Interceptor.transparent_recording]

end Pipeline
end Call
end SupplierGateway
