/-
  Smile2Unlock.FaceRecognizer.MainLoop

  The main loop of `recognizeFace` over any captures: when it ends, and what it has
  reported by then.

  `history_of_loop` is the invariant of both: `used_time` counts the failed captures, and
  what was sent tells whether a face was accepted.  Only a frame leaves the loop, so a
  camera that shows no usable face for ever, or nothing more after a success, keeps it
  running (`endsInTime_iff`).  What is reported is right all the same
  (`recognizeFace_reports`).
-/

import Smile2Unlock.FaceRecognizer.RecognizeFace

namespace Smile2Unlock.FaceRecognizer

open Smile2Unlock Lib SignIn

variable {clock : Nat → UInt64} {liveness : Bool}

-- ============================================================================
-- What a pass can do
-- ============================================================================

/-- The feature of a capture whose face is accepted. -/
def Capture.accepted (liveness : Bool) : Capture → Option Bytes
  | .failed | .thrown => none
  | .frame f =>
      match f.verdict liveness with
      | .skipped | .threw => none
      | .accepted featureHex => some featureHex

/-- The capture, or a model on its frame, gives an exception. -/
def Capture.throws (liveness : Bool) : Capture → Bool
  | .failed => false
  | .thrown => true
  | .frame f => f.verdict liveness = .threw

/-- A frame leaves the loop after a success or after the ten seconds. -/
theorem recognizeFrame_broke {s : Recognizer}
    (h : s.recognitionSuccess = true ∨ 10000 ≤ s.usedTime) (f : Frame) :
    recognizeFrame clock liveness s (.frame f) = .exit (.broke, s) := by
  rw [recognizeFrame]
  rcases h with hsuccess | hlate
  · rw [if_pos hsuccess]
  · rw [if_pos hlate, ite_self]

/-- A pass that continues: a failed capture, or a frame while the loop is looking. -/
theorem recognizeFrame_next {s t : Recognizer} {c : Capture}
    (h : recognizeFrame clock liveness s c = .next t) :
    (c = .failed ∧ t = { s with usedTime := s.usedTime + 10 }) ∨
    ∃ f, c = .frame f ∧ s.recognitionSuccess = false ∧
      ((f.verdict liveness = .skipped ∧ t = s) ∨
        ∃ featureHex, f.verdict liveness = .accepted featureHex ∧
          t = { s.sendStatus clock .success featureHex with recognitionSuccess := true }) := by
  cases c with
  | failed => exact .inl ⟨rfl, (ControlFlow.next.inj h).symm⟩
  | thrown => cases h
  | frame f =>
      refine .inr ⟨f, rfl, ?_⟩
      by_cases hleaves : s.recognitionSuccess = true ∨ 10000 ≤ s.usedTime
      · rw [recognizeFrame_broke hleaves] at h
        cases h
      · obtain ⟨hsuccess, htime⟩ := not_or.mp hleaves
        rw [Bool.not_eq_true] at hsuccess
        rw [recognizeFrame_frame clock liveness hsuccess (Nat.lt_of_not_le htime)] at h
        refine ⟨hsuccess, ?_⟩
        cases hverdict : f.verdict liveness with
        | skipped =>
            rw [hverdict] at h
            exact .inl ⟨rfl, (ControlFlow.next.inj h).symm⟩
        | threw => rw [hverdict] at h; cases h
        | accepted featureHex =>
            rw [hverdict] at h
            exact .inr ⟨featureHex, rfl, (ControlFlow.next.inj h).symm⟩

/-- A pass that leaves the loop: an exception, or a frame after a success or after the
    ten seconds. -/
theorem recognizeFrame_exit {s t : Recognizer} {c : Capture} {exit : Exit}
    (h : recognizeFrame clock liveness s c = .exit (exit, t)) :
    t = s ∧ ((exit = .thrown ∧ c.throws liveness = true) ∨
      (exit = .broke ∧ ∃ f, c = .frame f ∧
        (s.recognitionSuccess = true ∨ 10000 ≤ s.usedTime))) := by
  cases c with
  | failed => cases h
  | thrown =>
      obtain ⟨rfl, rfl⟩ := Prod.mk.inj (ControlFlow.exit.inj h)
      exact ⟨rfl, .inl ⟨rfl, rfl⟩⟩
  | frame f =>
      by_cases hleaves : s.recognitionSuccess = true ∨ 10000 ≤ s.usedTime
      · rw [recognizeFrame_broke hleaves] at h
        obtain ⟨rfl, rfl⟩ := Prod.mk.inj (ControlFlow.exit.inj h)
        exact ⟨rfl, .inr ⟨rfl, f, rfl, hleaves⟩⟩
      · obtain ⟨hsuccess, htime⟩ := not_or.mp hleaves
        rw [Bool.not_eq_true] at hsuccess
        rw [recognizeFrame_frame clock liveness hsuccess (Nat.lt_of_not_le htime)] at h
        cases hverdict : f.verdict liveness with
        | skipped => rw [hverdict] at h; cases h
        | threw =>
            rw [hverdict] at h
            obtain ⟨rfl, rfl⟩ := Prod.mk.inj (ControlFlow.exit.inj h)
            exact ⟨rfl, .inl ⟨rfl, by simp [Capture.throws, hverdict]⟩⟩
        | accepted featureHex => rw [hverdict] at h; cases h

-- ============================================================================
-- The loop so far
-- ============================================================================

/-- What the state says of the captures behind it. -/
structure History (clock : Nat → UInt64) (liveness : Bool) (captures : List Capture)
    (s : Recognizer) : Prop where
  usedTime : s.usedTime = 10 * captures.count .failed
  looking : s.recognitionSuccess = false →
    s.sent = (started clock).sent ∧ ∀ c ∈ captures, c.accepted liveness = none
  found : s.recognitionSuccess = true → ∃ c ∈ captures, ∃ featureHex,
    c.accepted liveness = some featureHex ∧
      s.sent = ((started clock).sendStatus clock .success featureHex).sent

theorem History.snoc {captures : List Capture} {s t : Recognizer} {c : Capture}
    (h : History clock liveness captures s) (hbody : recognizeFrame clock liveness s c = .next t) :
    History clock liveness (captures ++ [c]) t := by
  rcases recognizeFrame_next hbody with ⟨rfl, rfl⟩ | ⟨f, rfl, hsuccess, hverdict⟩
  · refine ⟨?_, fun hlooking => ?_, fun hfound => ?_⟩
    · rw [List.count_append, List.count_singleton_self]
      have htime := h.usedTime
      show s.usedTime + 10 = _
      omega
    · obtain ⟨hsent, hnone⟩ := h.looking hlooking
      exact ⟨hsent, forall_mem_snoc.mpr ⟨hnone, rfl⟩⟩
    · obtain ⟨c, hc, featureHex, haccepted, hsent⟩ := h.found hfound
      exact ⟨c, List.mem_append_left _ hc, featureHex, haccepted, hsent⟩
  · obtain ⟨hsent, hnone⟩ := h.looking hsuccess
    have htime : s.usedTime = 10 * (captures ++ [Capture.frame f]).count Capture.failed := by
      rw [List.count_append, List.count_singleton, if_neg (by simp), Nat.add_zero]
      exact h.usedTime
    rcases hverdict with ⟨hskipped, rfl⟩ | ⟨featureHex, haccepted, rfl⟩
    · refine ⟨htime, fun _ => ⟨hsent, forall_mem_snoc.mpr ⟨hnone, ?_⟩⟩, fun hfound => ?_⟩
      · rw [Capture.accepted, hskipped]
      · rw [hsuccess] at hfound
        cases hfound
    · refine ⟨htime, fun hlooking => ?_, fun _ => ?_⟩
      · cases hlooking
      refine ⟨.frame f, by simp, featureHex, by rw [Capture.accepted, haccepted], ?_⟩
      show (s.sendStatus clock .success featureHex).sent = _
      rw [Recognizer.sendStatus, Recognizer.sendStatus, hsent]

/-- Wherever the loop stands, its state tells its history. -/
theorem history_of_loop {captures : List Capture} {s : Recognizer}
    (h : loop (recognizeFrame clock liveness) (started clock) captures = .next s) :
    History clock liveness captures s := by
  refine loop_history (P := History clock liveness) ⟨rfl, ?_, ?_⟩ ?_ h
  · exact fun _ => ⟨rfl, fun c hc => absurd hc List.not_mem_nil⟩
  · intro hfound
    cases hfound
  · intro before s' c t hbefore hbody
    exact hbefore.snoc hbody

/-- The loop is over at a frame exactly if a face was accepted or the time is up. -/
theorem History.over_iff {captures : List Capture} {s : Recognizer}
    (h : History clock liveness captures s) :
    (s.recognitionSuccess = true ∨ 10000 ≤ s.usedTime) ↔
      ((∃ c ∈ captures, c.accepted liveness ≠ none) ∨ 1000 ≤ captures.count .failed) := by
  refine or_congr ⟨fun hfound => ?_, fun hsome => ?_⟩ ?_
  · obtain ⟨c, hc, featureHex, haccepted, -⟩ := h.found hfound
    exact ⟨c, hc, by simp [haccepted]⟩
  · obtain ⟨c, hc, haccepted⟩ := hsome
    by_contra hlooking
    exact haccepted ((h.looking (Bool.eq_false_iff.mpr hlooking)).2 c hc)
  · have htime := h.usedTime
    omega

-- ============================================================================
-- The packets
-- ============================================================================

/-- What `sendStatus` adds. -/
theorem mem_sendStatus {s : Recognizer} {status : RecognitionStatus} {feature : Bytes}
    {packet : UdpStatusPacket} :
    packet ∈ (s.sendStatus clock status feature).sent ↔ packet ∈ s.sent ∨
      ∃ h : feature.length < udpStatusMaxFeatureBytes,
        packet = statusPacket status [] 0 feature h (clock s.sent.length) := by
  rw [Recognizer.sendStatus, Smile2Unlock.sendStatus, List.mem_append]
  by_cases hfits : feature.length < udpStatusMaxFeatureBytes
  · simp [hfits]
  · simp [hfits]

/-- At the start only RECOGNIZING has been sent. -/
theorem statusCode_of_started {packet : UdpStatusPacket} (h : packet ∈ (started clock).sent) :
    packet.statusCode = RecognitionStatus.recognizing.code := by
  rcases mem_sendStatus.mp h with hnil | ⟨hfits, rfl⟩
  · cases hnil
  · rfl

-- ============================================================================
-- When the loop ends
-- ============================================================================

/-- The run on a stream of captures comes to its end, and if no face is ever accepted, it
    ends with its ten seconds used up and reports TIMEOUT. -/
def EndsInTime (clock : Nat → UInt64) (liveness : Bool) (captures : Nat → Capture) : Prop :=
  ∃ n exit s, recognizeFace clock liveness true true (firsts captures n) = .exit (exit, s) ∧
    ((∀ i, (captures i).accepted liveness = none) →
      exit = .broke ∧ 10000 ≤ s.usedTime ∧
        ∃ packet ∈ s.sent, packet.statusCode = RecognitionStatus.timeout.code)

/-- A frame comes after a face was accepted, or after a thousand failed captures. -/
def FrameComesAfter (liveness : Bool) (captures : Nat → Capture) : Prop :=
  ∃ n f, captures n = .frame f ∧
    ((∃ m < n, (captures m).accepted liveness ≠ none) ∨
      1000 ≤ (firsts captures n).count .failed)

variable {captures : Nat → Capture}

/-- The report of a loop that was left with its time used up. -/
theorem reportTimeout_sent {s : Recognizer} (h : s.recognitionSuccess = false) :
    ∃ packet ∈ (reportTimeout clock s).sent,
      packet.statusCode = RecognitionStatus.timeout.code := by
  rw [reportTimeout, if_pos (by simp [h])]
  have hfits : ([] : Bytes).length < udpStatusMaxFeatureBytes := nil_fits_feature
  exact ⟨_, mem_sendStatus.mpr (.inr ⟨hfits, rfl⟩), rfl⟩

/-- A frame after which the loop is over ends the run. -/
theorem endsInTime_of_over {n : Nat} {f : Frame} {s : Recognizer}
    (hloop : loop (recognizeFrame clock liveness) (started clock) (firsts captures n) = .next s)
    (hframe : captures n = .frame f) (hover : s.recognitionSuccess = true ∨ 10000 ≤ s.usedTime) :
    EndsInTime clock liveness captures := by
  have hrun : recognizeFace clock liveness true true (firsts captures (n + 1)) =
      .exit (.broke, reportTimeout clock s) := by
    rw [recognizeFace_devices, firsts_succ, loop_append_next hloop, hframe,
      loop_cons_exit (recognizeFrame_broke hover f)]
  refine ⟨n + 1, .broke, reportTimeout clock s, hrun, fun hnever => ?_⟩
  have hhistory := history_of_loop hloop
  have hlooking : s.recognitionSuccess = false := by
    by_contra hfound
    obtain ⟨c, hc, featureHex, haccepted, -⟩ := hhistory.found (by simpa using hfound)
    obtain ⟨m, -, rfl⟩ := mem_firsts.mp hc
    rw [hnever m] at haccepted
    cases haccepted
  have htime : 10000 ≤ (reportTimeout clock s).usedTime := by
    rw [reportTimeout]
    split
    · exact hover.resolve_left (by simp [hlooking])
    · exact hover.resolve_left (by simp [hlooking])
  exact ⟨rfl, htime, reportTimeout_sent hlooking⟩

/-- Without exceptions only a frame after which the loop is over ends the run. -/
theorem frameComesAfter_of_ends (hthrows : ∀ n, (captures n).throws liveness = false)
    (h : EndsInTime clock liveness captures) : FrameComesAfter liveness captures := by
  obtain ⟨n, exit, s, hrun, -⟩ := h
  have hleft : ∃ r, Leaves (recognizeFrame clock liveness) (started clock) captures r := by
    rw [recognizeFace_devices] at hrun
    cases hloop : loop (recognizeFrame clock liveness) (started clock) (firsts captures n) with
    | next t => rw [hloop] at hrun; cases hrun
    | exit r => exact ⟨r, n, hloop⟩
  obtain ⟨⟨exit, t⟩, hleft⟩ := hleft
  obtain ⟨m, s', hloop, hbody⟩ := leaves_iff.mp hleft
  obtain ⟨-, ⟨-, hthrow⟩ | ⟨-, f, hframe, hover⟩⟩ := recognizeFrame_exit hbody
  · rw [hthrows m] at hthrow
    cases hthrow
  · refine ⟨m, f, hframe, ?_⟩
    rcases (history_of_loop hloop).over_iff.mp hover with ⟨c, hc, haccepted⟩ | hcount
    · obtain ⟨k, hk, rfl⟩ := mem_firsts.mp hc
      exact .inl ⟨k, hk, haccepted⟩
    · exact .inr hcount

/-- Such a frame ends the run, unless an earlier one has. -/
theorem endsInTime_of_frame (hthrows : ∀ n, (captures n).throws liveness = false)
    (h : FrameComesAfter liveness captures) : EndsInTime clock liveness captures := by
  obtain ⟨n, f, hframe, hover⟩ := h
  cases hloop : loop (recognizeFrame clock liveness) (started clock) (firsts captures n) with
  | next s =>
      refine endsInTime_of_over hloop hframe ((history_of_loop hloop).over_iff.mpr ?_)
      refine hover.imp_left ?_
      rintro ⟨m, hm, haccepted⟩
      exact ⟨captures m, mem_firsts.mpr ⟨m, hm, rfl⟩, haccepted⟩
  | exit r =>
      obtain ⟨m, s', hbefore, hbody⟩ := leaves_iff.mp ⟨n, hloop⟩
      obtain ⟨exit, t⟩ := r
      obtain ⟨-, ⟨-, hthrow⟩ | ⟨-, g, hg, hover'⟩⟩ := recognizeFrame_exit hbody
      · rw [hthrows m] at hthrow
        cases hthrow
      · exact endsInTime_of_over hbefore hg hover'

/-- The loop ends, in time if no face is accepted, exactly if a frame comes after an
    accepted face or after ten seconds of failed captures. -/
theorem endsInTime_iff (clock : Nat → UInt64) (liveness : Bool) (captures : Nat → Capture)
    (hthrows : ∀ n, (captures n).throws liveness = false) :
    EndsInTime clock liveness captures ↔ FrameComesAfter liveness captures :=
  ⟨frameComesAfter_of_ends hthrows, endsInTime_of_frame hthrows⟩

/-- A camera that shows an accepted face all the time. -/
theorem endsInTime_iff_faceFrame :
    (∀ n, ((fun _ : Nat => Capture.frame faceFrame) n).throws true = false) ∧
    (EndsInTime (fun _ => 0) true (fun _ => .frame faceFrame) ↔
      FrameComesAfter true fun _ => .frame faceFrame) := by
  have hthrows : ∀ n, ((fun _ : Nat => Capture.frame faceFrame) n).throws true = false :=
    fun _ => rfl
  exact ⟨hthrows, endsInTime_iff (fun _ => 0) true (fun _ => .frame faceFrame) hthrows⟩

/-- A frame without a face. -/
def emptyFrame : Frame := ⟨0, 0, .noFace, some false⟩

/-- A camera that shows nobody keeps the loop running for ever. -/
theorem endsInTime_fails :
    ¬ ∀ (clock : Nat → UInt64) (liveness : Bool) (captures : Nat → Capture),
      (∀ n, (captures n).throws liveness = false) → EndsInTime clock liveness captures := by
  intro hclaim
  have hends := hclaim (fun _ => 0) true (fun _ => .frame emptyFrame) fun _ => rfl
  obtain ⟨n, f, -, ⟨m, -, haccepted⟩ | hcount⟩ := frameComesAfter_of_ends (fun _ => rfl) hends
  · exact haccepted rfl
  · have hnone : (firsts (fun _ : Nat => Capture.frame emptyFrame) n).count Capture.failed = 0 := by
      rw [List.count_eq_zero, mem_firsts]
      rintro ⟨m, -, heq⟩
      cases heq
    omega

-- ============================================================================
-- What is reported
-- ============================================================================

/-- The models on the images `I`, with thresholds `T`: the rectangle of `detect`, the
    feature, and the answer of `anti_face`. -/
structure Models (I T : Type) where
  detect : I → Int32 × Int32
  img2features : I → Extraction
  antiFace : I → T → Option Bool

/-- A call of `CaptureFrame` with the image it gives. -/
inductive Shot (I : Type) where
  | failed
  | thrown
  | image (img : I)

variable {I T : Type}

/-- What the loop sees of a shot. -/
def Models.capture (models : Models I T) (livenessThreshold : T) : Shot I → Capture
  | .failed => .failed
  | .thrown => .thrown
  | .image img =>
      .frame ⟨(models.detect img).1, (models.detect img).2, models.img2features img,
        models.antiFace img livenessThreshold⟩

/-- The image shows a face whose features, in this text form, may be sent. -/
def Models.Accepts (models : Models I T) (livenessThreshold : T) (liveness : Bool) (img : I)
    (featureHex : Bytes) : Prop :=
  0 < (models.detect img).1 ∧ 0 < (models.detect img).2 ∧
    (∃ bytes, models.img2features img = .feature bytes ∧ featureHex = encodeBytesToHex bytes) ∧
    (liveness = true → models.antiFace img livenessThreshold = some true)

theorem accepts_of_verdict {models : Models I T} {livenessThreshold : T} {img : I}
    {featureHex : Bytes}
    (h : (models.capture livenessThreshold (.image img)).accepted liveness = some featureHex) :
    models.Accepts livenessThreshold liveness img featureHex := by
  simp only [Models.capture, Capture.accepted, Frame.verdict] at h
  by_cases hface : 0 < (models.detect img).1 ∧ 0 < (models.detect img).2
  · rw [if_pos hface] at h
    refine ⟨hface.1, hface.2, ?_⟩
    cases hfeature : models.img2features img with
    | failed => simp [hfeature] at h
    | noFace => simp [hfeature] at h
    | feature bytes =>
        simp only [hfeature] at h
        have hreal : (if liveness then models.antiFace img livenessThreshold else some true) =
            some true := by
          cases hreal : if liveness then models.antiFace img livenessThreshold else some true with
          | none => simp [hreal] at h
          | some real =>
              cases real with
              | false => simp [hreal] at h
              | true => rfl
        rw [hreal] at h
        refine ⟨⟨bytes, rfl, ?_⟩, fun hon => ?_⟩
        · by_cases hempty : (encodeBytesToHex bytes).isEmpty = true
          · simp [hempty] at h
          · simp only [if_neg hempty, Option.some.injEq] at h
            exact h.symm
        · rwa [if_pos hon] at hreal
  · simp [if_neg hface] at h

/-- The end of a run that reports TIMEOUT: a frame breaks the loop, and no face was
    accepted before it. -/
def LeavesUnaccepted (clock : Nat → UInt64) (liveness : Bool) (captures : List Capture) : Prop :=
  ∃ seen f rest s, captures = seen ++ .frame f :: rest ∧
    loop (recognizeFrame clock liveness) (started clock) seen = .next s ∧
    recognizeFrame clock liveness s (.frame f) = .exit (.broke, s) ∧
    ∀ c ∈ seen, c.accepted liveness = none

/-- What a run has sent behind RECOGNIZING: nothing, the feature of an accepted face, or
    TIMEOUT. -/
inductive SentBy (clock : Nat → UInt64) (liveness : Bool) (captures : List Capture)
    (sent : List UdpStatusPacket) : Prop where
  | nothing (h : sent = (started clock).sent)
  | success (c : Capture) (featureHex : Bytes) (hc : c ∈ captures)
      (haccepted : c.accepted liveness = some featureHex)
      (h : sent = ((started clock).sendStatus clock .success featureHex).sent)
  | timeout (hleaves : LeavesUnaccepted clock liveness captures)
      (h : sent = ((started clock).sendStatus clock .timeout []).sent)

/-- The packets of a loop, seen from a later point. -/
theorem History.sentBy {seen captures : List Capture} {s : Recognizer}
    (h : History clock liveness seen s) (hsub : seen ⊆ captures) :
    SentBy clock liveness captures s.sent := by
  cases hsuccess : s.recognitionSuccess with
  | false => exact .nothing (h.looking hsuccess).1
  | true =>
      obtain ⟨c, hc, featureHex, haccepted, hsent⟩ := h.found hsuccess
      exact .success c featureHex (hsub hc) haccepted hsent

theorem sentBy_recognizeFace (clock : Nat → UInt64) (liveness cameraOpens modelsLoad : Bool)
    (captures : List Capture) :
    SentBy clock liveness captures
      (reached (recognizeFace clock liveness cameraOpens modelsLoad captures)).sent := by
  cases cameraOpens with
  | false => exact .nothing rfl
  | true =>
      cases modelsLoad with
      | false => exact .nothing rfl
      | true =>
          rw [recognizeFace_devices]
          cases hloop : loop (recognizeFrame clock liveness) (started clock) captures with
          | next s => exact (history_of_loop hloop).sentBy fun _ => id
          | exit result =>
              obtain ⟨exit, t⟩ := result
              obtain ⟨seen, c, rest, s, rfl, hseen, hbody⟩ := loop_exit_iff.mp hloop
              have hhistory := history_of_loop hseen
              have hsub : seen ⊆ seen ++ c :: rest := List.subset_append_left _ _
              obtain ⟨rfl, ⟨rfl, -⟩ | ⟨rfl, f, rfl, hover⟩⟩ := recognizeFrame_exit hbody
              · exact hhistory.sentBy hsub
              · show SentBy clock liveness _ (reportTimeout clock t).sent
                cases hsuccess : t.recognitionSuccess with
                | true =>
                    rw [reportTimeout, if_neg (by simp [hsuccess])]
                    exact hhistory.sentBy hsub
                | false =>
                    obtain ⟨hsent, hnone⟩ := hhistory.looking hsuccess
                    refine .timeout ⟨seen, f, rest, t, rfl, hseen, hbody, hnone⟩ ?_
                    rw [reportTimeout, if_pos (by simp [hsuccess]), Recognizer.sendStatus,
                      Recognizer.sendStatus, hsent]

/-- The packets with a status. -/
def withStatus (status : RecognitionStatus) (sent : List UdpStatusPacket) : List UdpStatusPacket :=
  sent.filter (·.statusCode = status.code)

/-- What a run reports about the images it was shown. -/
structure Reports (clock : Nat → UInt64) (models : Models I T) (livenessThreshold : T)
    (liveness : Bool) (shots : List (Shot I)) (sent : List UdpStatusPacket) : Prop where
  once : (withStatus .success sent).length ≤ 1
  checked : ∀ packet ∈ withStatus .success sent, ∃ img, .image img ∈ shots ∧
    models.Accepts livenessThreshold liveness img packet.featureText
  noTimeoutAfter : ∀ before packet after, sent = before ++ packet :: after →
    packet.statusCode = RecognitionStatus.success.code → withStatus .timeout after = []
  timeout : withStatus .timeout sent ≠ [] →
    LeavesUnaccepted clock liveness (shots.map (models.capture livenessThreshold))

theorem withStatus_started {wanted : RecognitionStatus} (hwanted : wanted ≠ .recognizing) :
    withStatus wanted (started clock).sent = [] := by
  rw [withStatus, List.filter_eq_nil_iff]
  intro packet hpacket hcode
  have hsame := (statusCode_of_started hpacket).symm.trans (of_decide_eq_true hcode)
  apply hwanted
  rw [← RecognitionStatus.ofCode_code wanted, ← hsame, RecognitionStatus.ofCode_code]

/-- One more packet behind those of the start. -/
theorem withStatus_sendStatus {wanted : RecognitionStatus} (hwanted : wanted ≠ .recognizing)
    (status : RecognitionStatus) (feature : Bytes) :
    withStatus wanted ((started clock).sendStatus clock status feature).sent =
      if h : feature.length < udpStatusMaxFeatureBytes ∧ status.code = wanted.code then
        [statusPacket status [] 0 feature h.1 (clock (started clock).sent.length)]
      else [] := by
  rw [Recognizer.sendStatus, Smile2Unlock.sendStatus, withStatus, List.filter_append, ← withStatus,
    withStatus_started hwanted, List.nil_append]
  by_cases hfits : feature.length < udpStatusMaxFeatureBytes
  · by_cases hcode : status.code = wanted.code
    · simp [hfits, hcode, statusPacket]
    · simp [hfits, hcode, statusPacket]
  · simp [hfits]

theorem withStatus_append (status : RecognitionStatus) (as bs : List UdpStatusPacket) :
    withStatus status (as ++ bs) = withStatus status as ++ withStatus status bs :=
  List.filter_append ..

/-- Packets without the one status or without the other are not out of order. -/
theorem noTimeoutAfter_of_nil {sent : List UdpStatusPacket}
    (h : withStatus .success sent = [] ∨ withStatus .timeout sent = [])
    {before after : List UdpStatusPacket} {packet : UdpStatusPacket}
    (heq : sent = before ++ packet :: after)
    (hsuccess : packet.statusCode = RecognitionStatus.success.code) :
    withStatus .timeout after = [] := by
  rcases h with hnone | hnone
  · have hmem : packet ∈ withStatus .success sent := by
      rw [withStatus, List.mem_filter, heq]
      exact ⟨by simp, decide_eq_true hsuccess⟩
    rw [hnone] at hmem
    cases hmem
  · rw [heq, ← List.singleton_append, withStatus_append, withStatus_append] at hnone
    exact (List.append_eq_nil_iff.mp (List.append_eq_nil_iff.mp hnone).2).2

/-- Every run reports rightly, whatever the camera and the models do: SUCCESS at most
    once and for a checked face, no TIMEOUT behind it, and TIMEOUT without an accepted
    face only. -/
theorem recognizeFace_reports (clock : Nat → UInt64) (models : Models I T) (livenessThreshold : T)
    (liveness cameraOpens modelsLoad : Bool) (shots : List (Shot I)) :
    Reports clock models livenessThreshold liveness shots
      (reached (recognizeFace clock liveness cameraOpens modelsLoad
        (shots.map (models.capture livenessThreshold)))).sent := by
  have hsuccess : RecognitionStatus.success ≠ .recognizing := by decide
  have htimeout : RecognitionStatus.timeout ≠ .recognizing := by decide
  rcases sentBy_recognizeFace clock liveness cameraOpens modelsLoad
    (shots.map (models.capture livenessThreshold)) with hsent | ⟨c, featureHex, hc, haccepted, hsent⟩ |
      ⟨hleaves, hsent⟩
  · rw [hsent]
    have hnone : withStatus .success (started clock).sent = [] := withStatus_started hsuccess
    refine ⟨?_, ?_, fun _ _ _ => noTimeoutAfter_of_nil (.inl hnone), fun hsome => ?_⟩
    · rw [hnone]
      exact Nat.zero_le 1
    · rw [hnone]
      exact fun _ hpacket => absurd hpacket List.not_mem_nil
    · exact absurd (withStatus_started htimeout) hsome
  · rw [hsent]
    have hone : withStatus .success ((started clock).sendStatus clock .success featureHex).sent =
        _ := withStatus_sendStatus hsuccess .success featureHex
    have hnone : withStatus .timeout ((started clock).sendStatus clock .success featureHex).sent =
        [] := by
      rw [withStatus_sendStatus htimeout, dif_neg fun h => absurd h.2 (by decide)]
    refine ⟨?_, ?_, fun _ _ _ => noTimeoutAfter_of_nil (.inr hnone), fun hsome => absurd hnone hsome⟩
    · rw [hone]
      split
      · exact Nat.le_refl 1
      · exact Nat.zero_le 1
    · rw [hone]
      obtain ⟨shot, hshot, rfl⟩ := List.mem_map.mp hc
      intro packet hpacket
      split at hpacket
      · rename_i hfits
        rw [List.mem_singleton.mp hpacket, featureText_statusPacket hfits.1]
        cases shot with
        | failed => cases haccepted
        | thrown => cases haccepted
        | image img => exact ⟨img, hshot, accepts_of_verdict haccepted⟩
      · cases hpacket
  · rw [hsent]
    have hnone : withStatus .success ((started clock).sendStatus clock .timeout []).sent = [] := by
      rw [withStatus_sendStatus hsuccess, dif_neg fun h => absurd h.2 (by decide)]
    refine ⟨?_, ?_, fun _ _ _ => noTimeoutAfter_of_nil (.inl hnone), fun _ => hleaves⟩
    · rw [hnone]
      exact Nat.zero_le 1
    · rw [hnone]
      exact fun _ hpacket => absurd hpacket List.not_mem_nil

end Smile2Unlock.FaceRecognizer
