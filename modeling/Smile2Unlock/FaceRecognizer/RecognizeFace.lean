/-
  Smile2Unlock.FaceRecognizer.RecognizeFace

  The recognize mode of FaceRecognizer (`recognizeFace` in main.cpp) and what it reports
  to the service.

  A run is given by what the camera and the models do.  It reports RECOGNIZING first, and
  at most one status that CP treats as final after it; a run that ends has reported one
  exactly if it got as far as the loop and the loop was not decided by an exception or by
  a feature that does not fit into a packet (`reportsOnce_iff`).
-/

import Smile2Unlock.FaceRecognizer.SharedFrame
import Smile2Unlock.Lib.Loop
import Smile2Unlock.SignIn.SessionEnd

namespace Smile2Unlock.FaceRecognizer

open Smile2Unlock Lib SignIn

-- ============================================================================
-- The camera and the models
-- ============================================================================

/-- A frame as the models see it: the face that `detect` finds (an empty rectangle
    without one; it catches its own exceptions), the feature, and the answer of
    `anti_face`, `none` for an exception. -/
structure Frame where
  faceWidth : Int32
  faceHeight : Int32
  extraction : Extraction
  antiFace : Option Bool
deriving DecidableEq

/-- A call of `CaptureFrame`: no frame, an exception, or a frame. -/
inductive Capture where
  | failed
  | thrown
  | frame (frame : Frame)
deriving DecidableEq

/-- What happens before the loop: `prepared` is the liveness option that `mainOptimized`
    ends up with, `none` if the options, the configuration or the sender give an
    exception; then the camera and the models. -/
structure Start where
  prepared : Option Bool
  cameraOpens : Bool
  modelsLoad : Bool

-- ============================================================================
-- The process
-- ============================================================================

/-- `recognition_success`, `used_time` and the packets that were sent. -/
structure Recognizer where
  recognitionSuccess : Bool
  usedTime : Nat
  sent : List UdpStatusPacket

/-- How the loop is left. -/
inductive Exit where
  | broke
  | thrown
deriving DecidableEq

/-- `g_udp_sender->send_status(status, "", 0, feature)`; its result is ignored. -/
def Recognizer.sendStatus (clock : Nat → UInt64) (s : Recognizer) (status : RecognitionStatus)
    (feature : Bytes) : Recognizer :=
  { s with
    sent := s.sent ++ (Smile2Unlock.sendStatus status [] 0 feature (clock s.sent.length)).toList }

/-- The body of the loop. -/
def recognizeFrame (clock : Nat → UInt64) (liveness : Bool) (s : Recognizer) :
    Capture → ControlFlow Recognizer (Exit × Recognizer)
  | .failed => .next { s with usedTime := s.usedTime + 10 }
  | .thrown => .exit (.thrown, s)
  | .frame frame =>
      if s.recognitionSuccess then .exit (.broke, s)
      else if 10000 ≤ s.usedTime then .exit (.broke, s)
      else if 0 < frame.faceWidth ∧ 0 < frame.faceHeight then
        match frame.extraction with
        | .failed => .exit (.thrown, s)
        | .noFace => .next s
        | .feature bytes =>
            match if liveness then frame.antiFace else some true with
            | none => .exit (.thrown, s)
            | some false => .next s
            | some true =>
                let featureHex := encodeBytesToHex bytes
                if featureHex.isEmpty then .next s
                else .next { s.sendStatus clock .success featureHex with recognitionSuccess := true }
      else .next s

/-- The report behind the loop. -/
def reportTimeout (clock : Nat → UInt64) (s : Recognizer) : Recognizer :=
  if ¬ s.recognitionSuccess then s.sendStatus clock .timeout [] else s

/-- `recognizeFace`; `Exit.thrown` leaves it with an exception. -/
def recognizeFace (clock : Nat → UInt64) (liveness cameraOpens modelsLoad : Bool)
    (captures : List Capture) : ControlFlow Recognizer (Exit × Recognizer) :=
  let s := Recognizer.sendStatus clock ⟨false, 0, []⟩ .recognizing []
  if ¬ cameraOpens then .exit (.thrown, s)
  else if ¬ modelsLoad then .exit (.thrown, s)
  else
    match loop (recognizeFrame clock liveness) s captures with
    | .next s => .next s
    | .exit (.thrown, s) => .exit (.thrown, s)
    | .exit (.broke, s) => .exit (.broke, reportTimeout clock s)

/-- `main` in the recognize mode: the packets it has sent and, once it has ended, its
    exit code. -/
def main (clock : Nat → UInt64) (start : Start) (captures : List Capture) :
    List UdpStatusPacket × Option Int :=
  match start.prepared with
  | none => ([], some (-1))
  | some liveness =>
      match recognizeFace clock liveness start.cameraOpens start.modelsLoad captures with
      | .next s => (s.sent, none)
      | .exit (.broke, s) => (s.sent, some 0)
      | .exit (.thrown, s) => (s.sent, some (-1))

-- ============================================================================
-- What is reported
-- ============================================================================

/-- The packets with a status that CP treats as final. -/
def finals (sent : List UdpStatusPacket) : List UdpStatusPacket :=
  sent.filter fun packet => isFinalForCp (.ofCode packet.statusCode)

/-- A run that has ended has reported exactly one final status. -/
def ReportsOnce (clock : Nat → UInt64) (start : Start) (captures : List Capture) : Prop :=
  (main clock start captures).2.isSome → (finals (main clock start captures).1).length = 1

-- ============================================================================
-- One pass through the loop
-- ============================================================================

/-- What the loop makes of a frame: it goes on, an exception leaves it, or the feature is
    sent. -/
inductive Verdict where
  | skipped
  | threw
  | accepted (featureHex : Bytes)
deriving DecidableEq

def Frame.verdict (liveness : Bool) (frame : Frame) : Verdict :=
  if 0 < frame.faceWidth ∧ 0 < frame.faceHeight then
    match frame.extraction with
    | .failed => .threw
    | .noFace => .skipped
    | .feature bytes =>
        match if liveness then frame.antiFace else some true with
        | none => .threw
        | some false => .skipped
        | some true =>
            if (encodeBytesToHex bytes).isEmpty then .skipped else .accepted (encodeBytesToHex bytes)
  else .skipped

variable {clock : Nat → UInt64} {liveness : Bool}

/-- A frame while the loop is still looking for a face. -/
theorem recognizeFrame_frame (clock : Nat → UInt64) (liveness : Bool) {s : Recognizer}
    (hsuccess : s.recognitionSuccess = false) (htime : s.usedTime < 10000) (frame : Frame) :
    recognizeFrame clock liveness s (.frame frame) =
      match frame.verdict liveness with
      | .skipped => .next s
      | .threw => .exit (.thrown, s)
      | .accepted featureHex =>
          .next { s.sendStatus clock .success featureHex with recognitionSuccess := true } := by
  rw [recognizeFrame, if_neg (by simp [hsuccess]), if_neg (by omega), Frame.verdict]
  split
  · cases hfeature : frame.extraction with
    | failed => rfl
    | noFace => rfl
    | feature bytes =>
        simp only
        cases hreal : if liveness then frame.antiFace else some true with
        | none => rfl
        | some real =>
            cases real with
            | false => rfl
            | true =>
                simp only
                split <;> rfl
  · rfl

/-- After a success nothing more is sent. -/
theorem recognizeFrame_success {s : Recognizer} (hsuccess : s.recognitionSuccess = true)
    (c : Capture) :
    (∃ usedTime, recognizeFrame clock liveness s c = .next { s with usedTime := usedTime }) ∨
    ∃ exit, recognizeFrame clock liveness s c = .exit (exit, s) := by
  cases c with
  | failed => exact .inl ⟨_, rfl⟩
  | thrown => exact .inr ⟨_, rfl⟩
  | frame frame => exact .inr ⟨.broke, by rw [recognizeFrame, if_pos hsuccess]⟩

/-- A loop that succeeded leaves with what was sent up to then. -/
theorem loop_success {s : Recognizer} {captures : List Capture} {exit : Exit} {s' : Recognizer}
    (hsuccess : s.recognitionSuccess = true)
    (h : loop (recognizeFrame clock liveness) s captures = .exit (exit, s')) :
    s'.recognitionSuccess = true ∧ s'.sent = s.sent := by
  refine loop_exit (P := fun t => t.recognitionSuccess = true ∧ t.sent = s.sent)
    (Q := fun r => r.2.recognitionSuccess = true ∧ r.2.sent = s.sent) ?_ ?_ ⟨hsuccess, rfl⟩ h
  · rintro t c t' ⟨ht, hsent⟩ hbody
    rcases recognizeFrame_success ht c with ⟨usedTime, hnext⟩ | ⟨exit, hexit⟩
    · obtain rfl := ControlFlow.next.inj (hnext.symm.trans hbody)
      exact ⟨ht, hsent⟩
    · cases hexit.symm.trans hbody
  · rintro t c r ⟨ht, hsent⟩ hbody
    rcases recognizeFrame_success ht c with ⟨usedTime, hnext⟩ | ⟨exit, hexit⟩
    · cases hnext.symm.trans hbody
    · obtain rfl := ControlFlow.exit.inj (hexit.symm.trans hbody)
      exact ⟨ht, hsent⟩

-- ============================================================================
-- The capture that decides
-- ============================================================================

/-- The loop goes on after the capture. -/
def Capture.isQuiet (liveness : Bool) : Capture → Bool
  | .failed => true
  | .thrown => false
  | .frame f => f.verdict liveness = .skipped

/-- The capture gives a feature that fits into a packet. -/
def Capture.fits (liveness : Bool) : Capture → Bool
  | .failed | .thrown => false
  | .frame f =>
      match f.verdict liveness with
      | .skipped | .threw => false
      | .accepted featureHex => featureHex.length < udpStatusMaxFeatureBytes

/-- Some frame comes when failed captures have used up the ten seconds; `usedTime` is
    the time used before the first capture. -/
def TimedOut (usedTime : Nat) (captures : List Capture) : Prop :=
  ∃ before frame after, captures = before ++ .frame frame :: after ∧
    10000 ≤ usedTime + 10 * before.count .failed

/-- The first capture that is not quiet, with the quiet ones before it. -/
def upToDecision (liveness : Bool) (captures : List Capture) : List Capture :=
  captures.takeWhile (Capture.isQuiet liveness) ++
    (captures.dropWhile (Capture.isQuiet liveness)).head?.toList

/-- The captures lead to a report: the time runs out before one decides, or it has a
    feature that fits. -/
def Decides (liveness : Bool) (usedTime : Nat) (captures : List Capture) : Prop :=
  TimedOut usedTime (upToDecision liveness captures) ∨
    ∃ c, (captures.dropWhile (Capture.isQuiet liveness)).head? = some c ∧ c.fits liveness = true

theorem timedOut_nil (usedTime : Nat) : ¬ TimedOut usedTime [] := by
  rintro ⟨before, f, after, heq, -⟩
  simp at heq

theorem timedOut_cons_failed (usedTime : Nat) (captures : List Capture) :
    TimedOut usedTime (.failed :: captures) ↔ TimedOut (usedTime + 10) captures := by
  constructor
  · rintro ⟨before, f, after, heq, htime⟩
    cases before with
    | nil => cases heq
    | cons c before =>
        obtain ⟨rfl, rfl⟩ := List.cons.inj heq
        rw [List.count_cons_self] at htime
        exact ⟨before, f, after, rfl, by omega⟩
  · rintro ⟨before, f, after, rfl, htime⟩
    refine ⟨.failed :: before, f, after, rfl, ?_⟩
    rw [List.count_cons_self]
    omega

theorem timedOut_cons_thrown (usedTime : Nat) (captures : List Capture) :
    TimedOut usedTime (.thrown :: captures) ↔ TimedOut usedTime captures := by
  constructor
  · rintro ⟨before, f, after, heq, htime⟩
    cases before with
    | nil => cases heq
    | cons c before =>
        obtain ⟨rfl, rfl⟩ := List.cons.inj heq
        rw [List.count_cons_of_ne (by simp)] at htime
        exact ⟨before, f, after, rfl, htime⟩
  · rintro ⟨before, f, after, rfl, htime⟩
    exact ⟨.thrown :: before, f, after, rfl, by rwa [List.count_cons_of_ne (by simp)]⟩

theorem timedOut_cons_frame (usedTime : Nat) (f : Frame) (captures : List Capture) :
    TimedOut usedTime (.frame f :: captures) ↔ 10000 ≤ usedTime ∨ TimedOut usedTime captures := by
  constructor
  · rintro ⟨before, f', after, heq, htime⟩
    cases before with
    | nil =>
        rw [List.count_nil] at htime
        exact .inl (by omega)
    | cons c before =>
        obtain ⟨rfl, rfl⟩ := List.cons.inj heq
        rw [List.count_cons_of_ne (by simp)] at htime
        exact .inr ⟨before, f', after, rfl, htime⟩
  · rintro (htime | ⟨before, f', after, rfl, htime⟩)
    · exact ⟨[], f, captures, rfl, by rw [List.count_nil]; omega⟩
    · exact ⟨.frame f :: before, f', after, rfl, by rwa [List.count_cons_of_ne (by simp)]⟩

theorem decides_cons_quiet {c : Capture} (hquiet : c.isQuiet liveness = true) (usedTime : Nat)
    (captures : List Capture) :
    Decides liveness usedTime (c :: captures) ↔
      TimedOut usedTime (c :: upToDecision liveness captures) ∨
        ∃ d, (captures.dropWhile (Capture.isQuiet liveness)).head? = some d ∧
          d.fits liveness = true := by
  rw [Decides, upToDecision, List.takeWhile_cons_of_pos hquiet, List.dropWhile_cons_of_pos hquiet]
  rfl

theorem decides_cons_of_not_quiet {c : Capture} (hquiet : ¬ c.isQuiet liveness = true)
    (usedTime : Nat) (captures : List Capture) :
    Decides liveness usedTime (c :: captures) ↔ TimedOut usedTime [c] ∨ c.fits liveness = true := by
  rw [Decides, upToDecision, List.takeWhile_cons_of_neg hquiet, List.dropWhile_cons_of_neg hquiet]
  simp

theorem decides_cons_failed (usedTime : Nat) (captures : List Capture) :
    Decides liveness usedTime (.failed :: captures) ↔
      Decides liveness (usedTime + 10) captures := by
  rw [decides_cons_quiet rfl, timedOut_cons_failed, Decides]

theorem not_decides_cons_thrown (usedTime : Nat) (captures : List Capture) :
    ¬ Decides liveness usedTime (.thrown :: captures) := by
  rw [decides_cons_of_not_quiet (by simp [Capture.isQuiet]), timedOut_cons_thrown]
  rintro (htime | hfits)
  · exact timedOut_nil usedTime htime
  · cases hfits

/-- A frame after the ten seconds. -/
theorem decides_cons_late {usedTime : Nat} (h : 10000 ≤ usedTime) (f : Frame)
    (captures : List Capture) : Decides liveness usedTime (.frame f :: captures) := by
  refine .inl ?_
  by_cases hquiet : (Capture.frame f).isQuiet liveness = true
  · rw [upToDecision, List.takeWhile_cons_of_pos hquiet]
    exact (timedOut_cons_frame usedTime f _).mpr (.inl h)
  · rw [upToDecision, List.takeWhile_cons_of_neg hquiet, List.dropWhile_cons_of_neg hquiet]
    exact (timedOut_cons_frame usedTime f _).mpr (.inl h)

/-- A frame before that decides if it is not skipped. -/
theorem decides_cons_frame {usedTime : Nat} (h : usedTime < 10000) (f : Frame)
    (captures : List Capture) :
    Decides liveness usedTime (.frame f :: captures) ↔
      match f.verdict liveness with
      | .skipped => Decides liveness usedTime captures
      | .threw => False
      | .accepted featureHex => featureHex.length < udpStatusMaxFeatureBytes := by
  have hlate : ¬ 10000 ≤ usedTime := by omega
  cases hverdict : f.verdict liveness with
  | skipped =>
      rw [decides_cons_quiet (by simp [Capture.isQuiet, hverdict]), timedOut_cons_frame,
        or_iff_right hlate, Decides]
  | threw =>
      rw [decides_cons_of_not_quiet (by simp [Capture.isQuiet, hverdict]), timedOut_cons_frame,
        or_iff_right hlate, or_iff_right (timedOut_nil usedTime)]
      simp [Capture.fits, hverdict]
  | accepted featureHex =>
      rw [decides_cons_of_not_quiet (by simp [Capture.isQuiet, hverdict]), timedOut_cons_frame,
        or_iff_right hlate, or_iff_right (timedOut_nil usedTime)]
      simp [Capture.fits, hverdict]

-- ============================================================================
-- Runs
-- ============================================================================

/-- How a loop is left that was still looking for a face: after a success, with its
    packet if that fits, or with nothing sent. -/
theorem loop_looking {captures : List Capture} {s s' : Recognizer} {exit : Exit}
    (hsuccess : s.recognitionSuccess = false)
    (h : loop (recognizeFrame clock liveness) s captures = .exit (exit, s')) :
    (s'.recognitionSuccess = true ∧ ∃ featureHex,
      s'.sent = (s.sendStatus clock .success featureHex).sent ∧
      (Decides liveness s.usedTime captures ↔ featureHex.length < udpStatusMaxFeatureBytes)) ∨
    (s'.recognitionSuccess = false ∧ s'.sent = s.sent ∧
      (Decides liveness s.usedTime captures ↔ exit = .broke)) := by
  induction captures generalizing s with
  | nil => cases h
  | cons c rest ih =>
      cases c with
      | failed =>
          rw [decides_cons_failed]
          rw [loop_cons_next rfl] at h
          have hrest := ih (s := { s with usedTime := s.usedTime + 10 }) hsuccess h
          exact hrest
      | thrown =>
          rw [loop_cons_exit rfl] at h
          obtain ⟨rfl, rfl⟩ := Prod.mk.inj (ControlFlow.exit.inj h)
          exact .inr ⟨hsuccess, rfl, iff_of_false (not_decides_cons_thrown _ _) (by simp)⟩
      | frame f =>
          by_cases hlate : 10000 ≤ s.usedTime
          · have hbody : recognizeFrame clock liveness s (.frame f) = .exit (.broke, s) := by
              rw [recognizeFrame, if_neg (by simp [hsuccess]), if_pos hlate]
            rw [loop_cons_exit hbody] at h
            obtain ⟨rfl, rfl⟩ := Prod.mk.inj (ControlFlow.exit.inj h)
            exact .inr ⟨hsuccess, rfl, iff_of_true (decides_cons_late hlate f rest) rfl⟩
          · have hbody := recognizeFrame_frame clock liveness hsuccess (Nat.lt_of_not_le hlate) f
            rw [decides_cons_frame (Nat.lt_of_not_le hlate)]
            cases hverdict : f.verdict liveness with
            | skipped =>
                rw [hverdict] at hbody
                rw [loop_cons_next hbody] at h
                exact ih hsuccess h
            | threw =>
                rw [hverdict] at hbody
                rw [loop_cons_exit hbody] at h
                obtain ⟨rfl, rfl⟩ := Prod.mk.inj (ControlFlow.exit.inj h)
                exact .inr ⟨hsuccess, rfl, by simp⟩
            | accepted featureHex =>
                rw [hverdict] at hbody
                rw [loop_cons_next hbody] at h
                obtain ⟨hdone, hsent⟩ := loop_success rfl h
                exact .inl ⟨hdone, featureHex, hsent, Iff.rfl⟩

/-- A status that fits adds its packet. -/
theorem finals_sendStatus (s : Recognizer) (status : RecognitionStatus) (feature : Bytes) :
    (finals (s.sendStatus clock status feature).sent).length =
      (finals s.sent).length +
        if feature.length < udpStatusMaxFeatureBytes ∧ isFinalForCp status = true then 1 else 0 := by
  rw [Recognizer.sendStatus, finals, List.filter_append, List.length_append, ← finals,
    Smile2Unlock.sendStatus]
  by_cases h : feature.length < udpStatusMaxFeatureBytes
  · rw [dif_pos h]
    cases hfinal : isFinalForCp status <;> simp [h, hfinal, statusPacket]
  · rw [dif_neg h, if_neg (fun hboth => h hboth.1)]
    rfl

/-- The state in which the devices are opened. -/
def started (clock : Nat → UInt64) : Recognizer :=
  Recognizer.sendStatus clock ⟨false, 0, []⟩ .recognizing []

theorem finals_started (clock : Nat → UInt64) : (finals (started clock).sent).length = 0 := by
  rw [started, finals_sendStatus, if_neg (fun h => absurd h.2 (by decide))]
  rfl

/-- `recognizeFace` with a loop. -/
theorem recognizeFace_devices (clock : Nat → UInt64) (liveness : Bool) (captures : List Capture) :
    recognizeFace clock liveness true true captures =
      match loop (recognizeFrame clock liveness) (started clock) captures with
      | .next s => .next s
      | .exit (.thrown, s) => .exit (.thrown, s)
      | .exit (.broke, s) => .exit (.broke, reportTimeout clock s) := rfl

/-- A run with its devices, once it is through the loop. -/
theorem finals_recognizeFace {captures : List Capture} {exit : Exit} {s : Recognizer}
    (h : recognizeFace clock liveness true true captures = .exit (exit, s)) :
    (finals s.sent).length = 1 ↔ Decides liveness 0 captures := by
  have hstart : (started clock).recognitionSuccess = false := rfl
  have hused : (started clock).usedTime = 0 := rfl
  have hrun := recognizeFace_devices clock liveness captures
  cases hloop : loop (recognizeFrame clock liveness) (started clock) captures with
  | next t =>
      rw [hloop] at hrun
      cases hrun.symm.trans h
  | exit result =>
      obtain ⟨left, t⟩ := result
      have hs : s = if left = .broke then reportTimeout clock t else t := by
        rw [hloop] at hrun
        cases left <;> cases hrun.symm.trans h <;> rfl
      rcases loop_looking hstart hloop with ⟨hsuccess, featureHex, hsent, hdecides⟩ |
        ⟨hsuccess, hsent, hdecides⟩
      · have ht : s = t := by
          rw [hs, reportTimeout, if_neg (not_not.mpr hsuccess), ite_self]
        rw [hused] at hdecides
        rw [hdecides, ht, hsent, finals_sendStatus, finals_started]
        by_cases hfits : featureHex.length < udpStatusMaxFeatureBytes
        · rw [if_pos ⟨hfits, by decide⟩]
          exact iff_of_true rfl hfits
        · rw [if_neg (fun hboth => hfits hboth.1)]
          exact iff_of_false (by decide) hfits
      · rw [hused] at hdecides
        rw [hdecides, hs]
        cases left with
        | thrown =>
            rw [if_neg (by decide), hsent, finals_started]
            exact iff_of_false (by decide) (by decide)
        | broke =>
            rw [if_pos rfl, reportTimeout, if_pos (by simp [hsuccess]), finals_sendStatus, hsent,
              finals_started, if_pos (by decide)]
            exact iff_of_true rfl rfl

/-- At most one final status so far, and none before a success. -/
def AtMostOne (s : Recognizer) : Prop := (finals s.sent).length ≤ s.recognitionSuccess.toNat

/-- Where a pass or the whole loop leads. -/
def reached : ControlFlow Recognizer (Exit × Recognizer) → Recognizer
  | .next s => s
  | .exit (_, s) => s

theorem atMostOne_recognizeFrame (clock : Nat → UInt64) (liveness : Bool) {s : Recognizer}
    (h : AtMostOne s) (c : Capture) : AtMostOne (reached (recognizeFrame clock liveness s c)) := by
  cases c with
  | failed => exact h
  | thrown => exact h
  | frame f =>
      by_cases hbreak : s.recognitionSuccess = true ∨ 10000 ≤ s.usedTime
      · have hbody : recognizeFrame clock liveness s (.frame f) = .exit (.broke, s) := by
          rw [recognizeFrame]
          rcases hbreak with hsuccess | hlate
          · rw [if_pos hsuccess]
          · rw [if_pos hlate, ite_self]
        rw [hbody]
        exact h
      · obtain ⟨hsuccess, htime⟩ := not_or.mp hbreak
        rw [Bool.not_eq_true] at hsuccess
        rw [recognizeFrame_frame clock liveness hsuccess (Nat.lt_of_not_le htime)]
        cases f.verdict liveness with
        | skipped => exact h
        | threw => exact h
        | accepted featureHex =>
            rw [AtMostOne, hsuccess, Bool.toNat_false] at h
            show (finals (s.sendStatus clock .success featureHex).sent).length ≤ 1
            rw [finals_sendStatus]
            split <;> omega

theorem atMostOne_loop (clock : Nat → UInt64) (liveness : Bool) {s : Recognizer} (h : AtMostOne s)
    (captures : List Capture) : AtMostOne (reached (loop (recognizeFrame clock liveness) s captures)) := by
  have hstep : ∀ t c t', AtMostOne t → recognizeFrame clock liveness t c = .next t' →
      AtMostOne t' := by
    intro t c t' ht hbody
    have hreached := atMostOne_recognizeFrame clock liveness ht c
    rwa [hbody] at hreached
  cases hloop : loop (recognizeFrame clock liveness) s captures with
  | next t => exact loop_invariant hstep h hloop
  | exit result =>
      refine loop_exit (Q := fun r => AtMostOne r.2) hstep ?_ h hloop
      intro t c r ht hbody
      have hreached := atMostOne_recognizeFrame clock liveness ht c
      rwa [hbody] at hreached

theorem finals_reportTimeout {s : Recognizer} (h : AtMostOne s) :
    (finals (reportTimeout clock s).sent).length ≤ 1 := by
  rw [AtMostOne] at h
  rw [reportTimeout]
  cases hsuccess : s.recognitionSuccess with
  | true =>
      rw [hsuccess] at h
      exact h
  | false =>
      rw [hsuccess, Bool.toNat_false] at h
      rw [if_pos (by decide), finals_sendStatus]
      split <;> omega

theorem finals_reached (clock : Nat → UInt64) (liveness cameraOpens modelsLoad : Bool)
    (captures : List Capture) :
    (finals (reached (recognizeFace clock liveness cameraOpens modelsLoad captures)).sent).length ≤
      1 := by
  have hstarted : AtMostOne (started clock) := (finals_started clock).le
  have hle : ∀ {s : Recognizer}, AtMostOne s → (finals s.sent).length ≤ 1 :=
    fun hs => hs.trans (Bool.toNat_le _)
  cases cameraOpens with
  | false => exact hle hstarted
  | true =>
      cases modelsLoad with
      | false => exact hle hstarted
      | true =>
          have hloop := atMostOne_loop clock liveness hstarted captures
          rw [recognizeFace_devices]
          cases hrun : loop (recognizeFrame clock liveness) (started clock) captures with
          | next s =>
              rw [hrun] at hloop
              exact hle hloop
          | exit result =>
              obtain ⟨left, s⟩ := result
              rw [hrun] at hloop
              cases left with
              | thrown => exact hle hloop
              | broke => exact finals_reportTimeout hloop

/-- No run reports twice. -/
theorem reports_at_most_once (clock : Nat → UInt64) (start : Start) (captures : List Capture) :
    (finals (main clock start captures).1).length ≤ 1 := by
  rw [main]
  cases start.prepared with
  | none => exact Nat.zero_le 1
  | some liveness =>
      have hreached := finals_reached clock liveness start.cameraOpens start.modelsLoad captures
      simp only
      split
      · rename_i hrun
        rwa [hrun] at hreached
      · rename_i hrun
        rwa [hrun] at hreached
      · rename_i hrun
        rwa [hrun] at hreached

/-- Everything before the loop goes well, and the captures lead to a report. -/
def CanReport (start : Start) (captures : List Capture) : Prop :=
  ∃ liveness, start.prepared = some liveness ∧ start.cameraOpens = true ∧
    start.modelsLoad = true ∧ Decides liveness 0 captures

/-- A run that ends has reported once exactly if it could. -/
theorem reportsOnce_iff (clock : Nat → UInt64) (start : Start) (captures : List Capture)
    (h : (main clock start captures).2.isSome = true) :
    (finals (main clock start captures).1).length = 1 ↔ CanReport start captures := by
  obtain ⟨prepared, cameraOpens, modelsLoad⟩ := start
  cases prepared with
  | none => exact iff_of_false (fun hone => by cases hone) (by rintro ⟨_, hprepared, -⟩; cases hprepared)
  | some liveness =>
      cases cameraOpens with
      | false =>
          refine iff_of_false ?_ (by rintro ⟨_, -, hcamera, -⟩; cases hcamera)
          show (finals (started clock).sent).length ≠ 1
          rw [finals_started]
          decide
      | true =>
          cases modelsLoad with
          | false =>
              refine iff_of_false ?_ (by rintro ⟨_, -, -, hmodels, -⟩; cases hmodels)
              show (finals (started clock).sent).length ≠ 1
              rw [finals_started]
              decide
          | true =>
              have hcan : CanReport ⟨some liveness, true, true⟩ captures ↔
                  Decides liveness 0 captures := by
                simp [CanReport]
              rw [hcan]
              simp only [main] at h ⊢
              cases hrun : recognizeFace clock liveness true true captures with
              | next s => rw [hrun] at h; cases h
              | exit result =>
                  obtain ⟨left, s⟩ := result
                  rw [← finals_recognizeFace hrun]
                  cases left <;> rfl

/-- A camera that does not open. -/
theorem reportsOnce_fails : ¬ ∀ clock start captures, ReportsOnce clock start captures := by
  intro hclaim
  have hone := hclaim (fun _ => 0) ⟨some false, false, true⟩ [] rfl
  have hzero : (finals (main (fun _ => 0) ⟨some false, false, true⟩ []).1).length = 0 :=
    finals_started fun _ => 0
  rw [hzero] at hone
  cases hone

/-- A frame with a face and a feature of one byte. -/
def faceFrame : Frame := ⟨1, 1, .feature [0xAB], some true⟩

theorem reportsOnce_iff_faceFrame :
    (main (fun _ => 0) ⟨some true, true, true⟩ [.frame faceFrame, .frame faceFrame]).2.isSome =
      true ∧
    ((finals (main (fun _ => 0) ⟨some true, true, true⟩
        [.frame faceFrame, .frame faceFrame]).1).length = 1 ↔
      CanReport ⟨some true, true, true⟩ [.frame faceFrame, .frame faceFrame]) :=
  ⟨rfl, reportsOnce_iff (fun _ => 0) ⟨some true, true, true⟩
    [.frame faceFrame, .frame faceFrame] rfl⟩

end Smile2Unlock.FaceRecognizer
