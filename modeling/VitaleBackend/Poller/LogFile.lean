import VitaleBackend.Cpp.Time
import VitaleBackend.Lib.Split
import VitaleBackend.Poller.Logged

/-!
# The log file

Both streams of the poller write into one file, each through a `TimestampedStreambuf` that puts the
time before the first character of a line and knows of its own lines only. The time before a line
can be read off again, and what is left is what was printed (`readLog_logFile`): for every message
ends its line, so that no stream ever writes within a line of the other.
-/

namespace VitaleBackend

/-! ## `now_in_eastern_time` -/

/-- What `localtime_r` gives at some moment, with its milliseconds and the name of its zone. -/
structure LocalTime where
  tm : Tm
  millis : Int
  zone : String
  isAlpha_zone : ∀ c ∈ zone.toList, c.isAlpha = true

/-- `now_in_eastern_time`, at a local time. -/
def nowInEasternTime (now : LocalTime) : String :=
  padded 4 (now.tm.year + 1900) ++ "-" ++ padded 2 (now.tm.mon + 1) ++ "-" ++
    padded 2 now.tm.mday ++ " " ++ padded 2 now.tm.hour ++ ":" ++ padded 2 now.tm.min ++ ":" ++
    padded 2 now.tm.sec ++ "." ++ padded 3 now.millis ++ " " ++ now.zone

/-- What a time is written with. -/
def IsTimeChar (c : Char) : Prop := c.isDigit = true ∨ c.isAlpha = true ∨ c ∈ ['-', ' ', ':', '.']

/-- Decided by its three cases. -/
instance : DecidablePred IsTimeChar := fun _ => inferInstanceAs (Decidable (_ ∨ _ ∨ _))

/-- A time is written with digits, letters of its zone and the four separators. -/
theorem isTimeChar_nowInEasternTime (now : LocalTime) :
    ∀ c ∈ (nowInEasternTime now).toList, IsTimeChar c := by
  have hpadded : ∀ width n, ∀ c ∈ (padded width n).toList, IsTimeChar c := by
    intro width n c hc
    rcases isDigit_or_of_mem_padded hc with h | h
    · exact .inl h
    · exact .inr (.inr (h ▸ .head _))
  have hzone : ∀ c ∈ now.zone.toList, IsTimeChar c := fun c hc =>
    .inr (.inl (now.isAlpha_zone c hc))
  have hseparator : ∀ s ∈ ["-", " ", ":", "."], ∀ c ∈ s.toList, IsTimeChar c := by
    simp [IsTimeChar]
  simp only [nowInEasternTime, String.toList_append, List.forall_mem_append, and_assoc]
  exact ⟨hpadded _ _, hseparator _ (by simp), hpadded _ _, hseparator _ (by simp), hpadded _ _,
    hseparator _ (by simp), hpadded _ _, hseparator _ (by simp), hpadded _ _,
    hseparator _ (by simp), hpadded _ _, hseparator _ (by simp), hpadded _ _,
    hseparator _ (by simp), hzone⟩

/-- So a character of any other kind ends it. -/
theorem not_mem_nowInEasternTime (now : LocalTime) {c : Char} (hc : ¬ IsTimeChar c) :
    c ∉ (nowInEasternTime now).toList := fun hmem => hc (isTimeChar_nowInEasternTime now c hmem)

/-! ## `TimestampedStreambuf` -/

/-- The buffer that a stream writes through: whether its next character begins a line. -/
structure TimestampedStreambuf where
  atLineStart : Bool := true
  deriving Repr, DecidableEq

/-- What stands before a line. -/
def stamp (now : LocalTime) : List Char :=
  '[' :: (nowInEasternTime now).toList ++ [']', ' ', '-', ' ']

/-- `TimestampedStreambuf::overflow`, with what it writes into the other buffer. -/
def TimestampedStreambuf.overflow (buf : TimestampedStreambuf) (now : LocalTime) (ch : Char) :
    TimestampedStreambuf × List Char :=
  (⟨ch = '\n'⟩, (if buf.atLineStart then stamp now else []) ++ [ch])

/-- The two streams of a process, how many characters went through them, and the file that both of
them write. -/
structure LogFile where
  cout : TimestampedStreambuf := {}
  cerr : TimestampedStreambuf := {}
  used : ℕ := 0
  bytes : List Char := []
  deriving Repr, DecidableEq

namespace LogFile

/-- One character. The clock is asked once for each. -/
def put (clock : ℕ → LocalTime) (channel : Channel) (f : LogFile) (ch : Char) : LogFile :=
  match channel with
  | .cout =>
    let (buf, out) := f.cout.overflow (clock f.used) ch
    { f with cout := buf, used := f.used + 1, bytes := f.bytes ++ out }
  | .cerr =>
    let (buf, out) := f.cerr.overflow (clock f.used) ch
    { f with cerr := buf, used := f.used + 1, bytes := f.bytes ++ out }

/-- One message. Neither stream buffers, so that all of it is written before the next. -/
def print (clock : ℕ → LocalTime) (f : LogFile) (m : Message) : LogFile :=
  (m.line.toList ++ ['\n']).foldl (put clock m.channel) f

end LogFile

/-- What a process prints. Its streams are new. -/
def LogFile.printAll (clock : ℕ → LocalTime) (f : LogFile) (journal : List Message) : LogFile :=
  journal.foldl (print clock) { f with cout := {}, cerr := {} }

/-- The file to which processes append what they print, one after the other. -/
def logFile (clock : ℕ → LocalTime) (journals : List (List Message)) : LogFile :=
  journals.foldl (LogFile.printAll clock) {}

/-! ## Reading -/

/-- The time of a line and its text. -/
def readLine (line : List Char) : Option (List Char × List Char) :=
  match line with
  | '[' :: rest =>
    match rest.dropWhile (· ≠ ']') with
    | ']' :: ' ' :: '-' :: ' ' :: text => some (rest.takeWhile (· ≠ ']'), text)
    | _ => none
  | _ => none

/-- The lines of a file that ends with one. -/
def readLog (bytes : List Char) : Option (List (List Char × List Char)) :=
  (bytes.splitOn '\n').dropLast.mapM readLine

/-- The time in front of a line is read back, as it has no bracket, and the text behind it is left.
-/
theorem readLine_stamp (now : LocalTime) (text : List Char) :
    readLine (stamp now ++ text) = some ((nowInEasternTime now).toList, text) := by
  have hbracket : ∀ c ∈ (nowInEasternTime now).toList, decide (c ≠ ']') = true := fun c hc =>
    decide_eq_true fun h => not_mem_nowInEasternTime now (by decide) (h ▸ hc)
  simp only [stamp, readLine, List.cons_append, List.append_assoc,
    List.dropWhile_append_of_pos hbracket, List.takeWhile_append_of_pos hbracket]
  simp

/-- A line of the file: when its first character was printed, and its text. -/
abbrev Entry := ℕ × List Char

/-- What a line of the file looks like. -/
def Entry.bytes (clock : ℕ → LocalTime) (e : Entry) : List Char :=
  stamp (clock e.1) ++ e.2 ++ ['\n']

/-- The lines of a file are its entries. -/
theorem readLog_entries (clock : ℕ → LocalTime) {entries : List Entry}
    (h : ∀ e ∈ entries, '\n' ∉ e.2) : readLog (entries.flatMap (Entry.bytes clock)) =
      some (entries.map fun e => ((nowInEasternTime (clock e.1)).toList, e.2)) := by
  have hsplit : (entries.flatMap (Entry.bytes clock)).splitOn '\n' =
      (entries.map fun e => stamp (clock e.1) ++ e.2) ++ [[]] := by
    induction entries with
    | nil => rfl
    | cons e entries ih =>
      obtain ⟨he, hrest⟩ := List.forall_mem_cons.1 h
      have hline : '\n' ∉ stamp (clock e.1) ++ e.2 := by
        have htime : '\n' ∉ (nowInEasternTime (clock e.1)).toList :=
          not_mem_nowInEasternTime _ (by decide)
        simp [stamp, htime, he]
      rw [List.flatMap_cons, Entry.bytes, List.append_assoc _ ['\n'], List.singleton_append,
        List.splitOn_append_cons_self_of_not_mem hline, ih hrest]
      rfl
  have hlines : ∀ es : List Entry, (es.map fun e => stamp (clock e.1) ++ e.2).mapM readLine =
      some (es.map fun e => ((nowInEasternTime (clock e.1)).toList, e.2)) := by
    intro es
    induction es with
    | nil => rfl
    | cons e es ih => simp [readLine_stamp, ih]
  rw [readLog, hsplit, List.dropLast_concat, hlines]

/-! ## Writing -/

namespace LogFile

/-- Both streams are about to begin a line. -/
structure AtRest (f : LogFile) : Prop where
  cout : f.cout = {}
  cerr : f.cerr = {}

/-- The file with some more lines. -/
structure Wrote (clock : ℕ → LocalTime) (f g : LogFile) (entries : List Entry) : Prop where
  bytes : g.bytes = f.bytes ++ entries.flatMap (Entry.bytes clock)
  used : f.used ≤ g.used
  ordered : entries.Pairwise fun a b => a.1 < b.1
  within : ∀ e ∈ entries, f.used ≤ e.1 ∧ e.1 < g.used

/-- Nothing is written when nothing is printed. -/
theorem Wrote.refl (clock : ℕ → LocalTime) (f : LogFile) : Wrote clock f f [] :=
  ⟨(List.append_nil _).symm, le_rfl, .nil, List.forall_mem_nil _⟩

/-- What is printed in a row is in the file in a row, with times in this order. -/
theorem Wrote.trans {clock : ℕ → LocalTime} {f g h : LogFile} {es es' : List Entry}
    (hfg : Wrote clock f g es) (hgh : Wrote clock g h es') : Wrote clock f h (es ++ es') := by
  refine ⟨?_, hfg.used.trans hgh.used, ?_, ?_⟩
  · rw [hgh.bytes, hfg.bytes, List.append_assoc, List.flatMap_append]
  · refine List.pairwise_append.2 ⟨hfg.ordered, hgh.ordered, fun a ha b hb => ?_⟩
    exact lt_of_lt_of_le (hfg.within a ha).2 (hgh.within b hb).1
  · refine List.forall_mem_append.2 ⟨fun e he => ?_, fun e he => ?_⟩
    · exact ⟨(hfg.within e he).1, lt_of_lt_of_le (hfg.within e he).2 hgh.used⟩
    · exact ⟨hfg.used.trans (hgh.within e he).1, (hgh.within e he).2⟩

/-- The stream of a channel. -/
def stream (f : LogFile) : Channel → TimestampedStreambuf
  | .cout => f.cout
  | .cerr => f.cerr

/-- A stream is now within a line, or at its start. -/
def setStream (f : LogFile) (channel : Channel) (buf : TimestampedStreambuf) : LogFile :=
  match channel with
  | .cout => { f with cout := buf }
  | .cerr => { f with cerr := buf }

/-- So many characters were printed, and this was written for them. -/
def append (f : LogFile) (n : ℕ) (out : List Char) : LogFile :=
  { f with used := f.used + n, bytes := f.bytes ++ out }

section
variable {clock : ℕ → LocalTime} {channel : Channel} {f : LogFile}

/-- What is written does not change where a stream is in its line. -/
@[simp] theorem stream_append (n : ℕ) (out : List Char) :
    (f.append n out).stream channel = f.stream channel := by cases channel <;> rfl

/-- Setting a stream and writing may be done in either order. -/
@[simp] theorem setStream_append (n : ℕ) (out : List Char) (buf : TimestampedStreambuf) :
    (f.append n out).setStream channel buf = (f.setStream channel buf).append n out := by
  cases channel <;> rfl

/-- Two pieces in a row are one piece. -/
@[simp] theorem append_append (m n : ℕ) (out out' : List Char) :
    (f.append m out).append n out' = f.append (m + n) (out ++ out') := by
  simp [append, Nat.add_assoc]

/-- The last setting of a stream counts. -/
@[simp] theorem setStream_setStream (buf buf' : TimestampedStreambuf) :
    (f.setStream channel buf).setStream channel buf' = f.setStream channel buf' := by
  cases channel <;> rfl

/-- A stream is where it was set. -/
@[simp] theorem stream_setStream (buf : TimestampedStreambuf) :
    (f.setStream channel buf).stream channel = buf := by cases channel <;> rfl

/-- Setting a stream prints nothing. -/
@[simp] theorem setStream_used (buf : TimestampedStreambuf) :
    (f.setStream channel buf).used = f.used := by cases channel <;> rfl

/-- At rest a stream begins a line. -/
theorem AtRest.stream_eq (h : f.AtRest) : f.stream channel = {} := by
  cases channel with
  | cout => exact h.cout
  | cerr => exact h.cerr

/-- So setting it to the start of one changes nothing. -/
theorem AtRest.setStream_eq (h : f.AtRest) : f.setStream channel {} = f := by
  cases channel with
  | cout => rw [setStream, ← h.cout]
  | cerr => rw [setStream, ← h.cerr]

/-- What one character does. -/
theorem put_eq (clock : ℕ → LocalTime) (channel : Channel) (f : LogFile) (ch : Char) :
    put clock channel f ch = (f.setStream channel ⟨ch = '\n'⟩).append 1
      ((if (f.stream channel).atLineStart then stamp (clock f.used) else []) ++ [ch]) := by
  cases channel <;> rfl

/-- The characters within a line, and its end. -/
theorem foldl_put_within {line : List Char} (hline : '\n' ∉ line)
    (hf : f.stream channel = ⟨false⟩) : (line ++ ['\n']).foldl (put clock channel) f =
      (f.setStream channel {}).append (line.length + 1) (line ++ ['\n']) := by
  induction line generalizing f with
  | nil => simp [put_eq, hf]
  | cons ch line ih =>
    obtain ⟨hch, hrest⟩ := not_or.1 (List.mem_cons.not.1 hline)
    rw [List.cons_append, List.foldl_cons, ih hrest]
    · simp [put_eq, hf, Nat.add_comm]
    · simp [put_eq, Ne.symm hch]

/-- A line is written with its time. -/
theorem foldl_put_line (hf : f.AtRest) {line : List Char} (hline : '\n' ∉ line) :
    (line ++ ['\n']).foldl (put clock channel) f =
      f.append (line.length + 1) (Entry.bytes clock (f.used, line)) := by
  cases line with
  | nil => simp [put_eq, hf.stream_eq, hf.setStream_eq, Entry.bytes]
  | cons ch line =>
    obtain ⟨hch, hrest⟩ := not_or.1 (List.mem_cons.not.1 hline)
    rw [List.cons_append, List.foldl_cons, foldl_put_within hrest]
    · simp [put_eq, hf.stream_eq, hf.setStream_eq, Entry.bytes, Nat.add_comm]
    · simp [put_eq, Ne.symm hch]

/-- What is written leaves the streams at rest, when it is set apart from them. -/
theorem AtRest.append (hf : f.AtRest) (n : ℕ) (out : List Char) : (f.append n out).AtRest :=
  ⟨hf.cout, hf.cerr⟩

/-- Lines in a row. -/
theorem foldl_put_lines (hf : f.AtRest) {lines : List (List Char)} (h : ∀ l ∈ lines, '\n' ∉ l) :
    ∃ entries : List Entry, entries.map Prod.snd = lines ∧
      Wrote clock f ((lines.flatMap (· ++ ['\n'])).foldl (put clock channel) f) entries ∧
      ((lines.flatMap (· ++ ['\n'])).foldl (put clock channel) f).AtRest := by
  induction lines generalizing f with
  | nil => exact ⟨[], rfl, .refl clock f, hf⟩
  | cons line lines ih =>
    obtain ⟨hline, hlines⟩ := List.forall_mem_cons.1 h
    obtain ⟨entries, rfl, hwrote, hrest⟩ := ih (hf.append _ _) hlines
    rw [List.flatMap_cons, List.foldl_append, foldl_put_line hf hline]
    refine ⟨(f.used, line) :: entries, rfl, ?_, hrest⟩
    have hfirst : Wrote clock f
        (f.append (line.length + 1) (Entry.bytes clock (f.used, line))) [(f.used, line)] :=
      ⟨by simp [append], by simp [append], List.pairwise_singleton _ _, by simp [append]⟩
    exact hfirst.trans hwrote

/-- A text that ends its line, as its lines. -/
theorem concat_eq_flatMap_splitOn (text : List Char) :
    text ++ ['\n'] = (text.splitOn '\n').flatMap (· ++ ['\n']) := by
  have hlines : ∀ lines : List (List Char), lines ≠ [] →
      ['\n'].intercalate lines ++ ['\n'] = lines.flatMap (· ++ ['\n']) := by
    intro lines hne
    induction lines with
    | nil => exact absurd rfl hne
    | cons line lines ih =>
      cases lines with
      | nil => simp
      | cons line' lines =>
        rw [List.intercalate_cons_cons, List.append_assoc, List.append_assoc, List.flatMap_cons,
          ← ih (List.cons_ne_nil _ _), List.append_assoc]
  rw [← hlines _ (List.splitOn_ne_nil _ _), List.intercalate_splitOn]

/-- A message is written as its lines. -/
theorem print_wrote (clock : ℕ → LocalTime) (hf : f.AtRest) (m : Message) :
    ∃ entries : List Entry, entries.map Prod.snd = m.line.toList.splitOn '\n' ∧
      Wrote clock f (f.print clock m) entries ∧ (f.print clock m).AtRest := by
  rw [print, concat_eq_flatMap_splitOn]
  exact foldl_put_lines hf fun l hl => (Splitting.isPiece_of_mem_splitOn hl).1

/-- The messages of a journal are written line by line, each with the time of its first character,
and leave the streams at rest. -/
theorem foldl_print_wrote (clock : ℕ → LocalTime) (hf : f.AtRest) (journal : List Message) :
    ∃ entries : List Entry,
      entries.map Prod.snd = journal.flatMap (fun m => m.line.toList.splitOn '\n') ∧
      Wrote clock f (journal.foldl (print clock) f) entries ∧
      (journal.foldl (print clock) f).AtRest := by
  induction journal generalizing f with
  | nil => exact ⟨[], rfl, .refl clock f, hf⟩
  | cons m journal ih =>
    obtain ⟨entries, htexts, hwrote, hrest⟩ := print_wrote clock hf m
    obtain ⟨entries', htexts', hwrote', hrest'⟩ := ih hrest
    exact ⟨entries ++ entries', by rw [List.map_append, htexts, htexts', List.flatMap_cons],
      hwrote.trans hwrote', hrest'⟩

/-- The streams of a process are at rest when it ends, so that new ones make no difference. -/
theorem foldl_printAll (hf : f.AtRest) (journals : List (List Message)) :
    journals.foldl (printAll clock) f = journals.flatten.foldl (print clock) f := by
  induction journals generalizing f with
  | nil => rfl
  | cons journal journals ih =>
    have hnew : { f with cout := {}, cerr := {} } = f := by
      cases f
      cases hf.cout
      cases hf.cerr
      rfl
    obtain ⟨-, -, -, hrest⟩ := foldl_print_wrote clock hf journal
    rw [List.foldl_cons, printAll, hnew, ih hrest, List.flatten_cons, List.foldl_append]

end

end LogFile

/-- The file is read back as the lines of what was printed, whatever process and stream each came
from, with the times at which they were begun, in their order. -/
theorem readLog_logFile (clock : ℕ → LocalTime) (journals : List (List Message)) :
    ∃ entries : List Entry, entries.Pairwise (fun a b => a.1 < b.1) ∧
      entries.map Prod.snd = journals.flatten.flatMap (fun m => m.line.toList.splitOn '\n') ∧
      readLog (logFile clock journals).bytes =
        some (entries.map fun e => ((nowInEasternTime (clock e.1)).toList, e.2)) := by
  have hrest : ({} : LogFile).AtRest := ⟨rfl, rfl⟩
  obtain ⟨entries, htexts, hwrote, -⟩ :=
    LogFile.foldl_print_wrote clock hrest journals.flatten
  refine ⟨entries, hwrote.ordered, htexts, ?_⟩
  rw [logFile, LogFile.foldl_printAll hrest, hwrote.bytes]
  refine readLog_entries clock fun e he => ?_
  have hline : e.2 ∈ journals.flatten.flatMap (fun m => m.line.toList.splitOn '\n') :=
    htexts ▸ List.mem_map_of_mem he
  obtain ⟨m, -, hmem⟩ := List.mem_flatMap.1 hline
  exact (Splitting.isPiece_of_mem_splitOn hmem).1

end VitaleBackend
