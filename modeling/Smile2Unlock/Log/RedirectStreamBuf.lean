/-
  Smile2Unlock.Log.RedirectStreamBuf

  The stream buffer that std::cout and std::cerr write through (common/utils/logger.h):
  each character goes to the original buffer and into a line, and the line goes to the log
  at a line break or a flush.

  `messages_eq` says what reaches the log: the pieces between line breaks and flushes,
  without the breaks at their ends, the empty ones left out.  That no character is lost,
  doubled or moved (`redirected`) is read off the pieces.
-/

import Smile2Unlock.Common.Text
import Mathlib.Data.List.DropRight

namespace Smile2Unlock.Log

open Smile2Unlock

/-- `'\r'`. -/
def carriageReturn : UInt8 := 13

/-- CR or LF. -/
def isBreak (ch : UInt8) : Bool := ch = newline || ch = carriageReturn

/-- A `RedirectStreamBuf`: what its original buffer received, its line, and the messages it
    handed to `AppendFileLogLine`. -/
structure RedirectStreamBuf where
  original : Bytes
  lineBuffer : Bytes
  messages : List Bytes
deriving DecidableEq

namespace RedirectStreamBuf

/-- A new buffer. -/
def initial : RedirectStreamBuf := ⟨[], [], []⟩

/-- `consume_line_buffer_locked`: the pending line, and the line buffer after it. -/
def consumeLineBuffer (lineBuffer : Bytes) : Bytes × Bytes :=
  let stripped := lineBuffer.rdropWhile isBreak
  if stripped = [] then ([], stripped) else (stripped, [])

/-- `append_line`. -/
def appendLine (buf : RedirectStreamBuf) (message : Bytes) : RedirectStreamBuf :=
  { buf with messages := buf.messages ++ [message] }

/-- The end of `overflow` and `sync`. -/
def appendPending (buf : RedirectStreamBuf) : RedirectStreamBuf :=
  let (pendingLine, lineBuffer) := consumeLineBuffer buf.lineBuffer
  let buf := { buf with lineBuffer := lineBuffer }
  if pendingLine ≠ [] then buf.appendLine pendingLine else buf

/-- `sync`; it returns 0. -/
def sync (buf : RedirectStreamBuf) : RedirectStreamBuf × Int := (buf.appendPending, 0)

/-- `overflow`; `none` is `traits_type::eof()`. -/
def overflow (buf : RedirectStreamBuf) : Option UInt8 → RedirectStreamBuf × Option UInt8
  | none => (buf.sync.1, if buf.sync.2 = 0 then some 0 else none)
  | some ch =>
      let buf := { buf with original := buf.original ++ [ch], lineBuffer := buf.lineBuffer ++ [ch] }
      if ch = newline then (buf.appendPending, some ch) else (buf, some ch)

end RedirectStreamBuf

/-- What a stream does to its buffer; there is no put area, so that each character goes
    through `overflow`. -/
inductive StreamCall where
  | sputc (ch : UInt8)
  | pubsync
deriving DecidableEq

namespace RedirectStreamBuf

def step (buf : RedirectStreamBuf) : StreamCall → RedirectStreamBuf
  | .sputc ch => (buf.overflow (some ch)).1
  | .pubsync => buf.sync.1

def run (buf : RedirectStreamBuf) (calls : List StreamCall) : RedirectStreamBuf :=
  calls.foldl step buf

end RedirectStreamBuf

-- ============================================================================
-- What was written
-- ============================================================================

/-- The characters of the calls. -/
def written : List StreamCall → Bytes
  | [] => []
  | .sputc ch :: calls => ch :: written calls
  | .pubsync :: calls => written calls

/-- A line break or a flush. -/
def EndsMessage (call : StreamCall) : Prop := call = .sputc newline ∨ call = .pubsync

/-- The characters between the line breaks and flushes. -/
def pieces : List StreamCall → List Bytes
  | [] => [[]]
  | .sputc ch :: calls => if ch = newline then [] :: pieces calls else (pieces calls).modifyHead (ch :: ·)
  | .pubsync :: calls => [] :: pieces calls

/-- The messages that pieces become. -/
def stripped (ps : List Bytes) : List Bytes :=
  (ps.map (List.rdropWhile isBreak)).filter (· ≠ [])

theorem stripped_cons (p : Bytes) (ps : List Bytes) : stripped (p :: ps) = stripped [p] ++ stripped ps := by
  rw [stripped, List.map_cons, ← List.singleton_append, List.filter_append]
  rfl

theorem pieces_ne_nil (calls : List StreamCall) : pieces calls ≠ [] := by
  induction calls with
  | nil => exact List.cons_ne_nil _ _
  | cons call calls ih =>
      cases call with
      | pubsync => exact List.cons_ne_nil _ _
      | sputc ch =>
          rw [pieces]
          split
          · exact List.cons_ne_nil _ _
          · exact List.modifyHead_eq_nil_iff.not.mpr ih

theorem newline_not_mem_pieces {calls : List StreamCall} {p : Bytes} (hp : p ∈ pieces calls) :
    newline ∉ p := by
  induction calls generalizing p with
  | nil =>
      rw [List.mem_singleton.mp hp]
      exact List.not_mem_nil
  | cons call calls ih =>
      cases call with
      | pubsync =>
          rcases List.mem_cons.mp hp with rfl | hp
          · exact List.not_mem_nil
          · exact ih hp
      | sputc ch =>
          rw [pieces] at hp
          split at hp
          · rcases List.mem_cons.mp hp with rfl | hp
            · exact List.not_mem_nil
            · exact ih hp
          · rename_i hch
            obtain ⟨first, rest, hpieces⟩ := List.exists_cons_of_ne_nil (pieces_ne_nil calls)
            rw [hpieces, List.modifyHead_cons] at hp
            rcases List.mem_cons.mp hp with rfl | hp
            · intro hmem
              rcases List.mem_cons.mp hmem with heq | hmem
              · exact hch heq.symm
              · exact ih (by rw [hpieces]; exact List.mem_cons_self) hmem
            · exact ih (by rw [hpieces]; exact List.mem_cons_of_mem _ hp)

/-- A text without its breaks. -/
def withoutBreaks (text : Bytes) : Bytes := text.filter fun ch => !isBreak ch

theorem withoutBreaks_append (a b : Bytes) :
    withoutBreaks (a ++ b) = withoutBreaks a ++ withoutBreaks b := List.filter_append _ _

theorem withoutBreaks_newline_cons (text : Bytes) :
    withoutBreaks (newline :: text) = withoutBreaks text := List.filter_cons_of_neg (by decide)

theorem withoutBreaks_cons (ch : UInt8) (text : Bytes) :
    withoutBreaks (ch :: text) = withoutBreaks [ch] ++ withoutBreaks text :=
  withoutBreaks_append [ch] text

/-- Only breaks are stripped. -/
theorem withoutBreaks_strip (text : Bytes) :
    withoutBreaks (text.rdropWhile isBreak) = withoutBreaks text := by
  have hend : withoutBreaks (text.rtakeWhile isBreak) = [] := by
    rw [withoutBreaks, List.filter_eq_nil_iff]
    intro ch hch
    rw [List.mem_rtakeWhile_imp hch]
    exact Bool.false_ne_true
  have hwhole : text.rdropWhile isBreak ++ text.rtakeWhile isBreak = text :=
    List.rdropWhile_append_rtakeWhile
  rw [← List.append_nil (withoutBreaks _), ← hend, ← withoutBreaks_append, hwhole]

/-- Without the breaks the pieces are what was written. -/
theorem withoutBreaks_pieces (calls : List StreamCall) :
    withoutBreaks (pieces calls).flatten = withoutBreaks (written calls) := by
  induction calls with
  | nil => rfl
  | cons call calls ih =>
      cases call with
      | pubsync => rw [pieces, written, List.flatten_cons, List.nil_append, ih]
      | sputc ch =>
          rw [pieces, written]
          split
          · rename_i hch
            rw [hch, List.flatten_cons, List.nil_append, ih, withoutBreaks_newline_cons]
          · obtain ⟨first, rest, hpieces⟩ := List.exists_cons_of_ne_nil (pieces_ne_nil calls)
            rw [hpieces, List.flatten_cons] at ih
            rw [hpieces, List.modifyHead_cons, List.flatten_cons, List.cons_append,
              withoutBreaks_cons, ih, ← withoutBreaks_cons]

theorem withoutBreaks_stripped (ps : List Bytes) :
    withoutBreaks (stripped ps).flatten = withoutBreaks ps.flatten := by
  induction ps with
  | nil => rfl
  | cons p ps ih =>
      have hone : (stripped [p]).flatten = p.rdropWhile isBreak := by
        rw [stripped, List.map_singleton, List.filter_singleton]
        cases p.rdropWhile isBreak with
        | nil => rfl
        | cons ch text => exact List.append_nil _
      rw [stripped_cons, List.flatten_append, withoutBreaks_append, ih, hone, withoutBreaks_strip,
        List.flatten_cons, withoutBreaks_append]

-- ============================================================================
-- What reaches the log
-- ============================================================================

namespace RedirectStreamBuf

/-- The line becomes a message, unless it has nothing but breaks. -/
theorem appendPending_eq (buf : RedirectStreamBuf) : buf.appendPending =
    ⟨buf.original, [], buf.messages ++ stripped [buf.lineBuffer]⟩ := by
  rw [appendPending, consumeLineBuffer, stripped, List.map_singleton, List.filter_singleton]
  by_cases hline : buf.lineBuffer.rdropWhile isBreak = []
  · rw [if_pos hline]
    simp [hline]
  · rw [if_neg hline]
    simp [hline, appendLine]

/-- A line break or a flush hands the line over. -/
theorem step_of_ends {call : StreamCall} (h : EndsMessage call) (buf : RedirectStreamBuf) :
    (buf.step call).lineBuffer = [] ∧
      (buf.step call).messages = buf.messages ++ stripped [buf.lineBuffer] := by
  rcases h with rfl | rfl
  · have hstrip : stripped [buf.lineBuffer ++ [newline]] = stripped [buf.lineBuffer] := by
      rw [stripped, stripped, List.map_singleton, List.map_singleton,
        List.rdropWhile_concat_pos _ _ _ (by decide)]
    rw [step, overflow, if_pos rfl, appendPending_eq]
    exact ⟨rfl, congrArg (buf.messages ++ ·) hstrip⟩
  · rw [step, sync, appendPending_eq]
    exact ⟨rfl, rfl⟩

/-- Any other character waits in the line. -/
theorem step_of_char {ch : UInt8} (h : ch ≠ newline) (buf : RedirectStreamBuf) :
    buf.step (.sputc ch) =
      ⟨buf.original ++ [ch], buf.lineBuffer ++ [ch], buf.messages⟩ := by
  rw [step, overflow, if_neg h]

theorem run_snoc (buf : RedirectStreamBuf) (calls : List StreamCall) (call : StreamCall) :
    buf.run (calls ++ [call]) = (buf.run calls).step call := by
  rw [run, List.foldl_append, List.foldl_cons, List.foldl_nil, run]

/-- The original buffer receives every character. -/
theorem original_step (buf : RedirectStreamBuf) (call : StreamCall) :
    (buf.step call).original = buf.original ++ written [call] := by
  cases call with
  | pubsync =>
      rw [step, sync, appendPending_eq]
      exact (List.append_nil _).symm
  | sputc ch =>
      by_cases hch : ch = newline
      · rw [step, overflow, if_pos hch, appendPending_eq]
        rfl
      · rw [step_of_char hch]
        rfl

/-- The stream that was redirected still gets every character. -/
theorem original_run (calls : List StreamCall) (buf : RedirectStreamBuf) :
    (buf.run calls).original = buf.original ++ written calls := by
  induction calls generalizing buf with
  | nil => exact (List.append_nil _).symm
  | cons call calls ih =>
      have hwritten : written (call :: calls) = written [call] ++ written calls := by
        cases call with
        | sputc ch => rfl
        | pubsync => rfl
      rw [run, List.foldl_cons, ← run, ih, original_step, hwritten, List.append_assoc]

/-- The messages are the pieces of the calls; the first continues the line that is there. -/
theorem messages_run (calls : List StreamCall) (buf : RedirectStreamBuf) :
    (buf.run calls).sync.1.messages =
      buf.messages ++ stripped ((pieces calls).modifyHead (buf.lineBuffer ++ ·)) := by
  induction calls generalizing buf with
  | nil =>
      rw [run, List.foldl_nil, sync, appendPending_eq, pieces, List.modifyHead_cons, List.append_nil]
  | cons call calls ih =>
      have hrun : buf.run (call :: calls) = (buf.step call).run calls := rfl
      rw [hrun, ih]
      have hends : EndsMessage call → pieces (call :: calls) = [] :: pieces calls →
          (buf.step call).messages ++
              stripped ((pieces calls).modifyHead ((buf.step call).lineBuffer ++ ·)) =
            buf.messages ++ stripped ((pieces (call :: calls)).modifyHead (buf.lineBuffer ++ ·)) := by
        intro hends hpieces
        have hsame : (pieces calls).modifyHead ([] ++ ·) = pieces calls := by
          cases pieces calls with
          | nil => rfl
          | cons p ps => rfl
        obtain ⟨hline, hmessages⟩ := step_of_ends hends buf
        rw [hpieces, List.modifyHead_cons, List.append_nil, stripped_cons, hline, hmessages, hsame,
          List.append_assoc]
      cases call with
      | pubsync => exact hends (.inr rfl) rfl
      | sputc ch =>
          by_cases hch : ch = newline
          · exact hends (.inl (by rw [hch])) (by rw [pieces, if_pos hch])
          · rw [step_of_char hch, pieces, if_neg hch, List.modifyHead_modifyHead]
            have hcons : ((buf.lineBuffer ++ ·) ∘ (ch :: ·)) = ((buf.lineBuffer ++ [ch]) ++ ·) := by
              funext p
              exact List.append_cons buf.lineBuffer ch p
            rw [hcons]

theorem messages_eq (calls : List StreamCall) :
    (initial.run calls).sync.1.messages = stripped (pieces calls) := by
  rw [messages_run]
  obtain ⟨p, ps, hpieces⟩ := List.exists_cons_of_ne_nil (pieces_ne_nil calls)
  rw [hpieces]
  rfl

end RedirectStreamBuf

/-- What is said of the messages of a buffer. -/
structure Redirected (calls : List StreamCall) (messages : List Bytes) : Prop where
  /-- nothing is lost, doubled or moved -/
  same : withoutBreaks messages.flatten = withoutBreaks (written calls)
  /-- each message is a line of its own -/
  line : ∀ message ∈ messages, message ≠ [] ∧ newline ∉ message
  /-- each message is a whole piece, up to the breaks at its end -/
  piece : messages = stripped (pieces calls)

/-- Everything written before the last flush reaches the log, in lines that end at line
    breaks and flushes only. -/
theorem redirected (calls : List StreamCall) :
    Redirected calls (RedirectStreamBuf.initial.run calls).sync.1.messages ∧
    ∀ pre call, EndsMessage call ∨ (RedirectStreamBuf.initial.run (pre ++ [call])).messages =
      (RedirectStreamBuf.initial.run pre).messages := by
  rw [RedirectStreamBuf.messages_eq]
  refine ⟨⟨?_, ?_, rfl⟩, ?_⟩
  · rw [withoutBreaks_stripped, withoutBreaks_pieces]
  · intro message hmessage
    obtain ⟨hpiece, hne⟩ := List.mem_filter.mp hmessage
    obtain ⟨p, hp, rfl⟩ := List.mem_map.mp hpiece
    refine ⟨of_decide_eq_true hne, fun hmem => newline_not_mem_pieces hp ?_⟩
    exact (List.rdropWhile_prefix isBreak p).subset hmem
  · intro pre call
    cases call with
    | pubsync => exact .inl (.inr rfl)
    | sputc ch =>
        by_cases hch : ch = newline
        · exact .inl (.inl (by rw [hch]))
        · rw [RedirectStreamBuf.run_snoc, RedirectStreamBuf.step_of_char hch]
          exact .inr rfl

end Smile2Unlock.Log
