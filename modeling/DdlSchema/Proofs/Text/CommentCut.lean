import DdlSchema.Proofs.Text.Scanning
import DdlSchema.Proofs.Text.Segmentation

/-! A text cut at its comments: the comments as the scanner delimits them, and between them the quoted
spans and single characters that it keeps. What is left of a comment is its line breaks. -/

set_option autoImplicit false

namespace DdlSchema.Text

inductive Part where
  | kept (segment : Segment)
  | comment (span : List Char)

def Part.source : Part → List Char
  | .kept segment => segment.text
  | .comment span => span

/-- What the removal of comments leaves of a part. -/
def Part.left : Part → List Segment
  | .kept segment => [segment]
  | .comment span => (span.filter (· == '\n')).map .plain

def Part.isComment : Part → Bool
  | .kept _ => false
  | .comment _ => true

/-- Splits what follows the opening of a block comment after the mark that closes it. -/
def blockTail : List Char → List Char × List Char
  | [] => ([], [])
  | [c] => ([c], [])
  | c :: d :: rest =>
    if c == '*' && d == '/' then ([c, d], rest)
    else
      let (inner, after) := blockTail (d :: rest)
      (c :: inner, after)

theorem blockTail_append (text : List Char) : (blockTail text).1 ++ (blockTail text).2 = text := by
  fun_induction blockTail text <;> simp_all

theorem blockTail_length_le (text : List Char) : (blockTail text).2.length ≤ text.length := by
  have same := congrArg List.length (blockTail_append text)
  simp only [List.length_append] at same
  omega

/-- The comments of a text and what stands between them, from a place where a hash begins a comment or
does not. -/
def partsFrom (lineStart : Bool) : List Char → List Part
  | [] => []
  | c :: rest =>
    if isQuote c then
      .kept (.quoted (c :: (quotedTail c rest).1)) :: partsFrom false (quotedTail c rest).2
    else if (c == '-' && rest.head? == some '-') || (c == '#' && lineStart) then
      .comment (c :: rest.takeWhile (· != '\n')) :: partsFrom lineStart (rest.dropWhile (· != '\n'))
    else if c == '/' && rest.head? == some '*' then
      .comment (c :: '*' :: (blockTail rest.tail).1) :: partsFrom lineStart (blockTail rest.tail).2
    else .kept (.plain c) :: partsFrom (c == '\n' || (lineStart && isBlank c)) rest
  termination_by text => text.length
  decreasing_by
    · have := quotedTail_length_le c rest
      simp only [List.length_cons]
      omega
    · have := (List.dropWhile_sublist (l := rest) (· != '\n')).length_le
      simp only [List.length_cons]
      omega
    · have := blockTail_length_le rest.tail
      simp only [List.length_cons, List.length_tail] at *
      omega
    · simp

def parts (text : List Char) : List Part := partsFrom true text

/-- The segments that are left when the comments are taken away. -/
def remains (list : List Part) : List Segment := list.flatMap Part.left

theorem remains_kept (segment : Segment) (rest : List Part) :
    remains (.kept segment :: rest) = segment :: remains rest := rfl

theorem remains_comment (span : List Char) (rest : List Part) :
    remains (.comment span :: rest) = (span.filter (· == '\n')).map .plain ++ remains rest := rfl

theorem remains_append (first second : List Part) :
    remains (first ++ second) = remains first ++ remains second := List.flatMap_append

theorem source_partsFrom (lineStart : Bool) (text : List Char) :
    (partsFrom lineStart text).flatMap Part.source = text := by
  fun_induction partsFrom lineStart text with
  | case1 => rfl
  | case2 lineStart c rest quote ih =>
    rw [List.flatMap_cons, ih, Part.source, Segment.text, List.cons_append, quotedTail_append]
  | case3 lineStart c rest plain opens ih =>
    rw [List.flatMap_cons, ih, Part.source, List.cons_append, List.takeWhile_append_dropWhile]
  | case4 lineStart c rest plain others opens ih =>
    rw [Bool.and_eq_true, beq_iff_eq, beq_iff_eq, List.head?_eq_some_iff] at opens
    obtain ⟨rfl, after, rfl⟩ := opens
    rw [List.flatMap_cons, ih, Part.source, List.cons_append, List.cons_append, blockTail_append,
      List.tail_cons]
  | case5 lineStart c rest plain others more ih => rw [List.flatMap_cons, ih, Part.source]; rfl

/-! The scanner inside of quotes. -/

section

variable {quote c d : Char} (lineStart : Bool)

theorem step_escape (escape : ((c == '\\' && quote == '\x27') || (c == quote && d == quote)) = true) :
    (⟨.quoted quote, lineStart⟩ : Scanner).step c (some d) =
      ⟨[c, d], true, ⟨.quoted quote, lineStart⟩⟩ := by
  simp only [Bool.or_eq_true, Bool.and_eq_true, beq_iff_eq] at escape
  rcases escape with ⟨rfl, rfl⟩ | ⟨rfl, rfl⟩
  · rfl
  · simp [Scanner.step, readQuoted]

theorem step_close (single : ¬ ((c == '\\' && quote == '\x27') || (c == quote && d == quote)) = true)
    (same : (c == quote) = true) : (⟨.quoted quote, lineStart⟩ : Scanner).step c (some d) =
      ⟨[c], false, ⟨.code, lineStart⟩⟩ := by
  obtain rfl : c = quote := beq_iff_eq.mp same
  have other : d ≠ c := by simpa using fun same => single (by simp [same])
  simp [Scanner.step, readQuoted, other]

theorem step_inside (single : ¬ ((c == '\\' && quote == '\x27') || (c == quote && d == quote)) = true)
    (apart : ¬ (c == quote) = true) : (⟨.quoted quote, lineStart⟩ : Scanner).step c (some d) =
      ⟨[c], false, ⟨.quoted quote, lineStart⟩⟩ := by
  have plain : ¬ (c == '\\' && quote == '\x27') = true := fun escape => single (by simp [escape])
  simp only [Scanner.step, readQuoted, if_neg apart, if_neg plain]

theorem kept_last (quote c : Char) : ((⟨.quoted quote, lineStart⟩ : Scanner).step c none).kept = [c] := by
  simp only [Scanner.step, readQuoted]
  split
  · rfl
  · split <;> rfl

end

/-! The scanner on its way along the cut. -/

/-- What it keeps where it stands. -/
def Scanner.keeps (scanner : Scanner) : Char → Bool :=
  match scanner.scope with
  | .code => fun _ => true
  | .quoted _ => fun _ => true
  | .lineComment => (· == '\n')
  | .blockComment => (· == '\n')

/-- The parts from the one on in which the scanner stands, of which it has read this much. -/
def Scanner.ahead (scanner : Scanner) (read rest : List Char) : List Part :=
  match scanner.scope with
  | .code => partsFrom scanner.lineStart rest
  | .quoted quote =>
    .kept (.quoted (read ++ (quotedTail quote rest).1)) ::
      partsFrom scanner.lineStart (quotedTail quote rest).2
  | .lineComment =>
    .comment (read ++ rest.takeWhile (· != '\n')) ::
      partsFrom scanner.lineStart (rest.dropWhile (· != '\n'))
  | .blockComment =>
    .comment (read ++ (blockTail rest).1) :: partsFrom scanner.lineStart (blockTail rest).2

/-- A step at a character leaves these parts behind and has read this much of the next one, and what it
keeps is what is left of them. -/
structure Follows (scanner : Scanner) (read : List Char) (c : Char) (rest : List Char) (advance : Advance)
    (done : List Part) (more : List Char) : Prop where
  ahead : scanner.ahead read (c :: rest) =
    done ++ advance.scanner.ahead more (rest.drop (advance.width - 1))
  fresh : advance.scanner.scope = .code → more = []
  kept : read.filter scanner.keeps ++ advance.kept =
    spelled (remains done) ++ more.filter advance.scanner.keeps

section

variable (lineStart : Bool) (read : List Char) (c : Char) (rest : List Char)

theorem follows_code : ∃ done more,
    Follows ⟨.code, lineStart⟩ [] c rest (readCode lineStart c rest.head?) done more := by
  -- a quote, two dashes, a hash at the start of a line, a slash with a star, or anything else
  unfold readCode
  split
  · next quote =>
    exact ⟨[], [c], by simp [Scanner.ahead, partsFrom, quote, Advance.width], by simp, rfl⟩
  · next plain =>
    split
    · next opens =>
      simp only [Bool.and_eq_true, beq_iff_eq, List.head?_eq_some_iff] at opens
      obtain ⟨rfl, after, rfl⟩ := opens
      refine ⟨[], ['-', '-'], ?_, by simp, rfl⟩
      simp [Scanner.ahead, partsFrom, plain, Advance.width]
    · next single =>
      split
      · next opens =>
        simp only [Bool.and_eq_true, beq_iff_eq] at opens
        obtain ⟨rfl, rfl⟩ := opens
        exact ⟨[], ['#'], by simp [Scanner.ahead, partsFrom, plain, Advance.width], by simp, rfl⟩
      · next unhashed =>
        split
        · next opens =>
          simp only [Bool.and_eq_true, beq_iff_eq, List.head?_eq_some_iff] at opens
          obtain ⟨rfl, after, rfl⟩ := opens
          refine ⟨[], ['/', '*'], ?_, by simp, rfl⟩
          simp [Scanner.ahead, partsFrom, plain, Advance.width]
        · next other =>
          have others : ¬ ((c == '-' && rest.head? == some '-') || (c == '#' && lineStart)) = true := by
            rw [Bool.or_eq_true, not_or]
            exact ⟨single, unhashed⟩
          refine ⟨[.kept (.plain c)], [], ?_, fun _ => rfl, rfl⟩
          rw [Scanner.ahead, partsFrom, if_neg plain, if_neg others, if_neg other]
          rfl

theorem follows_quoted (quote : Char) : ∃ done more,
    Follows ⟨.quoted quote, lineStart⟩ read c rest
      ((⟨.quoted quote, lineStart⟩ : Scanner).step c rest.head?) done more := by
  cases rest with
  | nil =>
    -- `quotedTail` takes the last character without a look at it, the scanner leaves the quotes or stays
    by_cases same : c = quote
    · subst same
      refine ⟨[.kept (.quoted (read ++ [c]))], [], ?_, fun _ => rfl, ?_⟩
      · simp [Scanner.ahead, Scanner.step, readQuoted, quotedTail, partsFrom]
      · simp [Scanner.keeps, Scanner.step, readQuoted, remains, Part.left, spelled, Segment.text]
    · refine ⟨[], read ++ [c], ?_, ?_, ?_⟩
      · simp [Scanner.ahead, Scanner.step, readQuoted, quotedTail, same]
      · simp [Scanner.step, readQuoted, same]
      · simp [Scanner.keeps, Scanner.step, readQuoted, remains, same, spelled]
  | cons d rest =>
    rw [List.head?_cons]
    by_cases escape : ((c == '\\' && quote == '\x27') || (c == quote && d == quote)) = true
    · rw [step_escape lineStart escape]
      refine ⟨[], read ++ [c, d], ?_, by simp, ?_⟩
      · simp [Scanner.ahead, quotedTail, escape, Advance.width]
      · simp [Scanner.keeps, remains, spelled]
    · by_cases same : (c == quote) = true
      · rw [step_close lineStart escape same]
        refine ⟨[.kept (.quoted (read ++ [c]))], [], ?_, fun _ => rfl, ?_⟩
        · simp only [Scanner.ahead]
          rw [quotedTail, if_neg escape, if_pos same]
          rfl
        · simp [Scanner.keeps, remains, Part.left, spelled, Segment.text]
      · rw [step_inside lineStart escape same]
        refine ⟨[], read ++ [c], ?_, by simp, ?_⟩
        · simp only [Scanner.ahead]
          rw [quotedTail, if_neg escape, if_neg same]
          simp [Advance.width]
        · simp [Scanner.keeps, remains, spelled]

theorem follows_lineComment : ∃ done more,
    Follows ⟨.lineComment, lineStart⟩ read c rest (readLineComment lineStart c) done more := by
  unfold readLineComment
  split
  · next ends =>
    -- the line break ends the comment but is no part of it
    obtain rfl := beq_iff_eq.mp ends
    refine ⟨[.comment read, .kept (.plain '\n')], [], ?_, fun _ => rfl, ?_⟩
    · simp [Scanner.ahead, partsFrom, Advance.width, isQuote]
    · rw [remains_comment, spelled_append, spelled_plain, List.filter_nil, List.append_nil]
      rfl
  · next other =>
    have apart : c ≠ '\n' := by simpa using other
    refine ⟨[], read ++ [c], ?_, by simp, ?_⟩
    · simp [Scanner.ahead, Advance.width, apart]
    · simp [Scanner.keeps, apart, remains, spelled]

theorem follows_blockComment : ∃ done more, Follows ⟨.blockComment, lineStart⟩ read c rest
    (readBlockComment lineStart c rest.head?) done more := by
  unfold readBlockComment
  split
  · next closes =>
    simp only [Bool.and_eq_true, beq_iff_eq, List.head?_eq_some_iff] at closes
    obtain ⟨rfl, after, rfl⟩ := closes
    refine ⟨[.comment (read ++ ['*', '/'])], [], ?_, fun _ => rfl, ?_⟩
    · simp [Scanner.ahead, blockTail, Advance.width]
    · simp [remains, Part.left, spelled_plain, Scanner.keeps]
  · next open_ =>
    refine ⟨[], read ++ [c], ?_, by simp, ?_⟩
    · have tail : blockTail (c :: rest) = (c :: (blockTail rest).1, (blockTail rest).2) := by
        cases rest with
        | nil => rfl
        | cons d rest =>
          have other : ¬ (c == '*' && d == '/') = true := open_
          rw [blockTail, if_neg other]
      simp [Scanner.ahead, Advance.width, tail]
    · simp [Scanner.keeps, List.filter_cons, remains, spelled]

theorem follows_step (scanner : Scanner) (fresh : scanner.scope = .code → read = []) : ∃ done more,
    Follows scanner read c rest (scanner.step c rest.head?) done more := by
  obtain ⟨scope, lineStart⟩ := scanner
  cases scope with
  | code =>
    obtain rfl := fresh rfl
    exact follows_code lineStart c rest
  | quoted quote => exact follows_quoted lineStart read c rest quote
  | lineComment => exact follows_lineComment lineStart read c rest
  | blockComment => exact follows_blockComment lineStart read c rest

end

section

variable {text : List Char} {place : Nat} {scanner : Scanner} {out read : List Char}

theorem remains_ahead_nil (fresh : scanner.scope = .code → read = []) :
    spelled (remains (scanner.ahead read [])) = read.filter scanner.keeps := by
  obtain ⟨scope, lineStart⟩ := scanner
  cases scope with
  | code =>
    obtain rfl := fresh rfl
    simp [Scanner.ahead, partsFrom, remains, spelled]
  | quoted quote =>
    simp [Scanner.ahead, quotedTail, partsFrom, remains, Part.left, Scanner.keeps, spelled, Segment.text]
  | lineComment => simp [Scanner.ahead, partsFrom, remains, Part.left, Scanner.keeps, spelled_plain]
  | blockComment =>
    simp [Scanner.ahead, blockTail, partsFrom, remains, Part.left, Scanner.keeps, spelled_plain]

theorem source_ahead (fresh : scanner.scope = .code → read = []) (rest : List Char) :
    (scanner.ahead read rest).flatMap Part.source = read ++ rest := by
  obtain ⟨scope, lineStart⟩ := scanner
  cases scope with
  | code =>
    obtain rfl := fresh rfl
    exact source_partsFrom lineStart rest
  | quoted quote =>
    simp [Scanner.ahead, source_partsFrom, Part.source, Segment.text, quotedTail_append]
  | lineComment => simp [Scanner.ahead, source_partsFrom, Part.source]
  | blockComment => simp [Scanner.ahead, source_partsFrom, Part.source, blockTail_append]

theorem Visits.cut (visits : Visits text place scanner out) : ∃ before read,
    parts text = before ++ scanner.ahead read (text.drop place) ∧
      (scanner.scope = .code → read = []) ∧
      out = spelled (remains before) ++ read.filter scanner.keeps := by
  induction visits with
  | start => exact ⟨[], [], rfl, fun _ => rfl, rfl⟩
  | @step place scanner out c _ here ih =>
    obtain ⟨before, read, whole, fresh, rfl⟩ := ih
    obtain ⟨bound, rfl⟩ := List.getElem?_eq_some_iff.mp here
    obtain ⟨done, more, step⟩ := follows_step read text[place] (text.drop (place + 1)) scanner fresh
    rw [List.head?_drop, ← Scanner.stepAt] at step
    have least := (scanner.stepAt text place text[place]).width_pos
    refine ⟨before ++ done, more, ?_, step.fresh, ?_⟩
    · rw [whole, List.drop_eq_getElem_cons bound, step.ahead, List.append_assoc, List.drop_drop]
      congr 4
      omega
    · rw [List.append_assoc, step.kept, remains_append, spelled_append, List.append_assoc]

end

theorem stripComments_eq_remains (text : List Char) :
    stripComments text = spelled (remains (parts text)) := by
  obtain ⟨last, visits⟩ := visits_end text
  obtain ⟨before, read, whole, fresh, out⟩ := visits.cut
  rw [List.drop_length] at whole
  rw [out, whole, remains_append, spelled_append, remains_ahead_nil fresh]

end DdlSchema.Text
