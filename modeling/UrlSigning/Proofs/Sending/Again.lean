import UrlSigning.Proofs.Retry.Schedule
import UrlSigning.Proofs.Sending.Target
import UrlSigning.Sending.Exchange

/-!
# Sending again

What an answer comes to depends on its status alone if it can be read at all (`settle_eq`), and a
failure is tried again if it is transient: the connection failed, or the status is one of five. So
a presigned request is sent until something else comes of it, each time as the same request.

The five statuses are not all that say that the server failed. An answer of 501, say, ends the
sending at once.
-/

namespace UrlSigning

open Text Retry

/-- The connection failed or took too long, or the answer says that the server has too much to do or
cannot answer for now. -/
def Failure.IsTransient (e : Failure) : Prop :=
  e.kind = .connect ∨ e.kind = .connectTimeout ∨ e.kind = .readTimeout ∨
    ∃ code, e.kind = .status code ∧
      (code = 429 ∨ code = 500 ∨ code = 502 ∨ code = 503 ∨ code = 504)

theorem isPassing_iff {e : Failure} : isPassing e = true ↔ e.IsTransient := by
  unfold isPassing Failure.IsTransient
  cases e.kind <;> simp [passingCodes]

theorem not_isTransient {e : Failure} (h : isPassing e = false) : ¬e.IsTransient := by
  rw [← isPassing_iff, h]
  exact Bool.false_ne_true

/-- Of the statuses of an answer five are tried again. -/
theorem isTransient_status_iff {code : Int} {url : String} {location : Option String} :
    (Failure.status ⟨code, url, location⟩).IsTransient ↔
      code = 429 ∨ code = 500 ∨ code = 502 ∨ code = 503 ∨ code = 504 := by
  simp [Failure.IsTransient, Failure.kind]

/-- The fields of the answer are of ASCII, and where it sends the client on to a place, that is a
target. -/
structure Reply.IsReadable (request : Outgoing) (r : Reply) : Prop where
  fields : ∀ f ∈ r.headers.fields, IsAscii f.1 ∧ IsAscii f.2
  location : ∀ location, r.location? = some location →
    Reply.checkLocation request location = .ok ()

namespace Reply

variable {request : Outgoing} {r : Reply}

theorem forM_checkLocation (h : r.IsReadable request) :
    r.location?.forM (checkLocation request) = .ok () := by
  rcases hlocation : r.location? with _ | location
  · rfl
  · exact h.location location hlocation

/-- An answer that can be read is given back, or it is a failure of its status. -/
theorem settle_eq (h : r.IsReadable request) :
    r.settle request =
      if 200 ≤ r.status ∧ r.status ≤ 299 then .ok r
      else .error (.status ⟨r.status, request.target.text, r.location?⟩) := by
  unfold settle
  rw [Outgoing.checkFields_eq_ok.mpr h.fields, forM_checkLocation h]
  show (if r.isSuccess then _ else _) = _
  simp only [isSuccess, Bool.and_eq_true, decide_eq_true_eq]
  rfl

theorem not_isTransient_of_checkLocation {location : String} {e : Failure}
    (h : checkLocation request location = .error e) : ¬e.IsTransient := by
  rcases bind_eq_error.mp h with h | ⟨target, -, h⟩
  · obtain ⟨fault, -, rfl⟩ := mapError_eq_error.mp h
    exact not_isTransient rfl
  · split at h
    · obtain ⟨fault, -, rfl⟩ := mapError_eq_error.mp h
      exact not_isTransient rfl
    · cases h

/-- An answer that cannot be read is a failure that is not tried again. -/
theorem settle_of_not_isReadable (h : ¬r.IsReadable request) :
    ∃ e, r.settle request = .error e ∧ ¬e.IsTransient := by
  unfold settle
  rcases hfields : Outgoing.checkFields r.headers.fields with fault | _
  · exact ⟨.encoding fault, rfl, not_isTransient rfl⟩
  · rcases hlocation : r.location? with _ | location
    · refine absurd ⟨Outgoing.checkFields_eq_ok.mp hfields, ?_⟩ h
      simp [hlocation]
    · rcases hcheck : checkLocation request location with e | _
      · refine ⟨e, ?_, not_isTransient_of_checkLocation hcheck⟩
        show (checkLocation request location >>= fun _ => _) = _
        rw [hcheck]
        rfl
      · refine absurd ⟨Outgoing.checkFields_eq_ok.mp hfields, ?_⟩ h
        intro location' h'
        cases hlocation.symm.trans h'
        exact hcheck

end Reply

namespace Sending

variable {m : Presigned} {body : Bytes}

theorem not_isTransient_of_ofPresigned {e : Failure}
    (h : Outgoing.ofPresigned m body = .error e) : ¬e.IsTransient := by
  rcases bind_eq_error.mp h with h | ⟨target, -, h⟩
  · obtain ⟨fault, -, rfl⟩ := mapError_eq_error.mp h
    exact not_isTransient rfl
  · rcases bind_eq_error.mp h with h | ⟨_, -, h⟩
    · obtain ⟨fault, -, rfl⟩ := mapError_eq_error.mp h
      exact not_isTransient rfl
    · cases h

/-- What the network makes of a request, with the answer looked at. -/
def answer (request : Outgoing) (network : Outgoing → Except Failure Reply) :
    Except Failure Reply :=
  (network request).bind (Reply.settle request)

section

variable {request : Outgoing} {network : Outgoing → Except Failure Reply}

theorem answer_of_error {e : Failure} (h : network request = .error e) :
    answer request network = .error e := by
  rw [answer, h]
  rfl

theorem answer_of_ok {reply : Reply} (h : network request = .ok reply) :
    answer request network = reply.settle request := by
  rw [answer, h]
  rfl

theorem answer_eq {reply : Reply} (h : network request = .ok reply)
    (hreadable : reply.IsReadable request) :
    answer request network =
      if 200 ≤ reply.status ∧ reply.status ≤ 299 then .ok reply
      else .error (.status ⟨reply.status, request.target.text, reply.location?⟩) := by
  rw [answer_of_ok h, Reply.settle_eq hreadable]

end

theorem attempt_of_error {e : Failure} (h : Outgoing.ofPresigned m body = .error e)
    (network : Outgoing → Except Failure Reply) : attempt m body network = ⟨none, .error e⟩ := by
  rw [attempt, h]

theorem attempt_of_ok {request : Outgoing} (h : Outgoing.ofPresigned m body = .ok request)
    (network : Outgoing → Except Failure Reply) :
    attempt m body network = ⟨some request.authorize, answer request.authorize network⟩ := by
  rw [attempt, h]
  rfl

section

variable {n : Nat} {delays : List Int} {schedule : Schedule}
  (hmake : Schedule.make n delays isPassing = .ok schedule)
  (network : Nat → Outgoing → Except Failure Reply)

include hmake

/-- What cannot be made into a request is not sent, and that is not tried again. -/
theorem send_of_error {e : Failure} (h : Outgoing.ofPresigned m body = .error e) :
    send m body (.standard schedule) network = ⟨.error e, [⟨none, .error e⟩], []⟩ := by
  obtain ⟨hpasses, hgoes⟩ :=
    goesBy_run hmake Attempt.result fun i => attempt m body (network i)
  rw [send]
  generalize run (.standard schedule) _ _ = o at hpasses hgoes ⊢
  simp only [attempt_of_error h] at hpasses hgoes
  have hstays : ¬isPassing e = true := isPassing_iff.not.mpr (not_isTransient_of_ofPresigned h)
  obtain ⟨hone, hresult⟩ := hgoes.unchanged 1 e (Nat.le_refl 1) hgoes.made.1 rfl hstays
  obtain ⟨pass, hpass⟩ := List.length_eq_one_iff.mp hone
  obtain ⟨-, rfl⟩ := hpasses pass (by simp [hpass])
  have hpauses := hgoes.pauses
  have hnone : o.delays = [] := List.eq_nil_of_length_eq_zero (by omega)
  obtain ⟨result, passes, pauses⟩ := o
  dsimp only at hresult hpass hnone
  rw [hresult, hpass, hnone]

/-- All attempts send the same request, and the answers decide what follows. -/
theorem goesBy_send {request : Outgoing} (h : Outgoing.ofPresigned m body = .ok request) :
    (∀ pass ∈ (send m body (.standard schedule) network).passes,
      pass.request = some request.authorize) ∧
      GoesBy n delays Failure.IsTransient (fun i => answer request.authorize (network i))
        (send m body (.standard schedule) network) := by
  obtain ⟨hpasses, hgoes⟩ :=
    goesBy_run hmake Attempt.result fun i => attempt m body (network i)
  have houtcomes : (fun i => (attempt m body (network i)).result) =
      fun i => answer request.authorize (network i) := by
    funext i
    rw [attempt_of_ok h]
  have hretries : (fun e => isPassing e = true) = Failure.IsTransient :=
    funext fun _ => propext isPassing_iff
  rw [houtcomes, hretries] at hgoes
  refine ⟨?_, hgoes⟩
  intro pass hpass
  obtain ⟨i, rfl⟩ := hpasses pass hpass
  rw [attempt_of_ok h]

end

/-- Under a schedule that tries again after failures that pass, a presigned request that cannot be
made into a request is not sent at all. Any other is sent at most so many times, each time as the
same request. An answer of success is returned. A transient failure, which of all answers is one of
the status 429, 500, 502, 503 or 504, is followed by a pause and another sending as long as one is
allowed, and then reported as exhaustion. Everything else ends the sending and is raised as it is,
other statuses from 500 to 599 among them. -/
theorem send_again_while_transient (m : Presigned) (body : Bytes) {n : Nat} (hn : 1 ≤ n)
    (delays : List Int) (network : Nat → Outgoing → Except Failure Reply) :
    ∃ schedule o, Schedule.make n delays isPassing = .ok schedule ∧
      o = send m body (.standard schedule) network ∧
      (∀ e, Outgoing.ofPresigned m body = .error e → o = ⟨.error e, [⟨none, .error e⟩], []⟩) ∧
      ∀ request sent, Outgoing.ofPresigned m body = .ok request → sent = request.authorize →
        (∀ pass ∈ o.passes, pass.request = some sent) ∧
        GoesBy n delays Failure.IsTransient (fun i => answer sent (network i)) o ∧
        (∀ i e, network i sent = .error e → answer sent (network i) = .error e) ∧
        (∀ i reply, network i sent = .ok reply → reply.IsReadable sent →
          answer sent (network i) =
            if 200 ≤ reply.status ∧ reply.status ≤ 299 then .ok reply
            else .error (.status ⟨reply.status, sent.target.text, reply.location?⟩)) ∧
        (∀ i reply, network i sent = .ok reply → ¬reply.IsReadable sent →
          ∃ e, answer sent (network i) = .error e ∧ ¬e.IsTransient) ∧
        ∀ i reply, 1 ≤ i → i ≤ o.passes.length → i < n → network i sent = .ok reply →
          reply.IsReadable sent → 500 ≤ reply.status → reply.status ≤ 599 →
          (i < o.passes.length ↔ reply.status = 500 ∨ reply.status = 502 ∨ reply.status = 503 ∨
            reply.status = 504) := by
  obtain ⟨schedule, hmake⟩ := exists_make hn delays isPassing
  refine ⟨schedule, _, hmake, rfl, fun e he => send_of_error hmake network he, ?_⟩
  rintro request _ hrequest rfl
  obtain ⟨hpasses, hgoes⟩ := goesBy_send hmake network hrequest
  refine ⟨hpasses, hgoes, fun i e => answer_of_error, fun i reply => answer_eq, ?_, ?_⟩
  · intro i reply hreply hunreadable
    rw [answer_of_ok hreply]
    exact Reply.settle_of_not_isReadable hunreadable
  · intro i reply hi hle hlt hreply hreadable hlow hhigh
    have hanswer := answer_eq hreply hreadable
    rw [if_neg (by omega)] at hanswer
    -- the status alone decides whether the attempt is the last one
    by_cases hagain : (Failure.status
        ⟨reply.status, request.authorize.target.text, reply.location?⟩).IsTransient
    · have hmore := (hgoes.again i _ hi hle hlt hanswer hagain).1
      rw [isTransient_status_iff] at hagain
      omega
    · have hend := (hgoes.unchanged i _ hi hle hanswer hagain).1
      rw [isTransient_status_iff] at hagain
      omega

/-! ### A link, and what the network makes of it -/

def Sample.link : Presigned where
  method := "PUT"
  url := "https://h.example/b/k?X-Amz-Signature=abc"
  headers := [("x-amz-meta-a", "1")]

def Sample.reply (status : Int) : Reply := ⟨status, ⟨[]⟩, []⟩

/-- The server is busy, then it is too slow, then it answers. -/
def Sample.recovers : Nat → Outgoing → Except Failure Reply
  | 1, _ => .ok (Sample.reply 503)
  | 2, _ => .error (.raised .readTimeout "The read operation timed out")
  | _, _ => .ok (Sample.reply 200)

/-- The server does not know what is asked of it, until it does. -/
def Sample.learns : Nat → Outgoing → Except Failure Reply
  | 1, _ => .ok (Sample.reply 501)
  | _, _ => .ok (Sample.reply 200)

theorem exists_request_link (body : Bytes) :
    ∃ request, Outgoing.ofPresigned Sample.link body = .ok request := by
  have hok : (Url.Target.ofUrl Sample.link.url).isOk = true := by decide +kernel
  rcases htarget : Url.Target.ofUrl Sample.link.url with e | target
  · rw [htarget] at hok
    cases hok
  · exact ⟨_, Outgoing.ofPresigned_eq_ok.mpr ⟨target, htarget, rfl, rfl⟩⟩

theorem isReadable_reply (request : Outgoing) (status : Int) :
    (Sample.reply status).IsReadable request where
  fields := by simp [Sample.reply]
  location := by simp [Reply.location?, Sample.reply, Http.Headers.has]

theorem send_again_while_transient_recovers : 1 ≤ 3 ∧
    ∃ schedule o, Schedule.make 3 defaultDelays isPassing = .ok schedule ∧
      o = send Sample.link [120] (.standard schedule) Sample.recovers ∧
      o.passes.length = 3 ∧ o.result = .ok (Sample.reply 200) ∧
      o.delays[0]? = some 5000 ∧ o.delays[1]? = some 15000 := by
  obtain ⟨schedule, o, hmake, ho, -, h⟩ := send_again_while_transient Sample.link [120]
    (n := 3) (by decide) defaultDelays Sample.recovers
  obtain ⟨request, hrequest⟩ := exists_request_link [120]
  obtain ⟨-, hgoes, -, hanswer, -, -⟩ := h request _ hrequest rfl
  have hfirst := hanswer 1 _ rfl (isReadable_reply _ 503)
  have hthird := hanswer 3 _ rfl (isReadable_reply _ 200)
  rw [if_neg (by decide)] at hfirst
  rw [if_pos (by decide)] at hthird
  obtain ⟨hone, hpause⟩ := hgoes.again 1 _ (by decide) hgoes.made.1 (by decide) hfirst
    (isTransient_status_iff.mpr (by decide))
  obtain ⟨htwo, hpause'⟩ := hgoes.again 2 _ (by decide) hone (by decide) rfl
    (.inr (.inr (.inl rfl)))
  obtain ⟨hlength, hresult⟩ := hgoes.success 3 _ (by decide) htwo hthird
  exact ⟨by decide, schedule, o, hmake, ho, hlength, hresult, hpause, hpause'⟩

/-- After an answer of 501 to the first of three attempts nothing more is sent. -/
theorem sending_ends_at_501 :
    ∃ schedule o request, Schedule.make 3 defaultDelays isPassing = .ok schedule ∧
      o = send Sample.link [120] (.standard schedule) Sample.learns ∧
      Outgoing.ofPresigned Sample.link [120] = .ok request ∧
      Sample.learns 1 request.authorize = .ok (Sample.reply 501) ∧
      Sample.learns 2 request.authorize = .ok (Sample.reply 200) ∧
      o.passes.length = 1 ∧ o.delays = [] ∧
      o.result = .error (.status ⟨501, request.authorize.target.text, none⟩) := by
  obtain ⟨schedule, hmake⟩ := exists_make (n := 3) (by decide) defaultDelays isPassing
  obtain ⟨request, hrequest⟩ := exists_request_link [120]
  obtain ⟨-, hgoes⟩ := goesBy_send hmake Sample.learns hrequest
  have hfirst : Sample.learns 1 request.authorize = .ok (Sample.reply 501) := rfl
  have hanswer := answer_eq hfirst (isReadable_reply request.authorize 501)
  rw [if_neg (by decide)] at hanswer
  obtain ⟨hlength, hresult⟩ := hgoes.unchanged 1 _ (by decide) hgoes.made.1 hanswer
    (isTransient_status_iff.not.mpr (by decide))
  have hpauses := hgoes.pauses
  exact ⟨schedule, _, request, hmake, rfl, hrequest, hfirst, rfl, hlength,
    List.eq_nil_of_length_eq_zero (by omega), hresult⟩

end Sending

end UrlSigning
