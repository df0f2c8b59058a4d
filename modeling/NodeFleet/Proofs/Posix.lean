import NodeFleet.Install.Script

/-!
# Scripts as the shell reads them

What a shell makes of a script before it runs it: commands with their words, the file that takes the
output of a command, and the document that a command reads. Between single quotes every character
stands for itself, and so does a character after a backslash; blanks end a word, and the end of a
line ends a command. The lines of a document are taken as they are, up to the delimiter, which has
to be quoted.

The reader is strict: outside of quotes it takes only characters that have no meaning to a shell
besides the ones named above, and it gives no answer to a script with any other. What it answers for
a line of plain and quoted words is the words.
-/

namespace NodeFleet.Posix

/-! ### The reader -/

/-- A part of a command line. -/
inductive Token where
  | word (text : String)
  /-- The next word names the file that takes the output. -/
  | output
  /-- The next word is the delimiter of a document. -/
  | document
  deriving DecidableEq, Repr

/-- A command; the document is a list of lines. -/
structure Command where
  words : List String
  output : Option String
  document : Option (List String)
  deriving DecidableEq, Repr

/-- A command that has only words. -/
def Command.plain (words : List String) : Command := ⟨words, none, none⟩

/-- A command line. -/
structure Line where
  words : List String
  output : Option String
  delimiter : Option String
  deriving DecidableEq, Repr

/-- Puts tokens together; output and document may each be given once. -/
def Line.ofTokens : List Token → Option Line
  | [] => some ⟨[], none, none⟩
  | .word w :: ts => (ofTokens ts).map fun l => { l with words := w :: l.words }
  | .output :: .word w :: ts =>
    ((ofTokens ts).filter (·.output.isNone)).map fun l => { l with output := some w }
  | .document :: .word w :: ts =>
    ((ofTokens ts).filter (·.delimiter.isNone)).map fun l => { l with delimiter := some w }
  | _ => none

/-- The words that are no name of a command. -/
def reserved : List String :=
  ["case", "do", "done", "elif", "else", "esac", "fi", "for", "if", "in", "then", "until", "while"]

/-- The command line of tokens, unless it begins with a reserved word. -/
def commandLine (tokens : List Token) : Option Line :=
  (Line.ofTokens tokens).filter fun l => !l.words.head?.any reserved.contains

/-- The command of a line and its document; there is none in an empty line. -/
def Line.commands (l : Line) (document : Option (List String)) : List Command :=
  if l = ⟨[], none, none⟩ then [] else [⟨l.words, l.output, document⟩]

/-- The characters that have no meaning to a shell, wherever they stand in a word. -/
def isPlain (c : Char) : Bool := c.isAlphanum || "-_./:,+@".toList.contains c

/-- Where the reader is in a command line. A word, and quotes in a word, come with the characters of
the word so far. -/
inductive Place where
  | gap
  | word (text : List Char)
  | quoted (text : List Char)

/-- The characters of the word under way. -/
def Place.text : Place → List Char
  | gap => []
  | word text | quoted text => text

/-- The word under way as a token. -/
def Place.tokens : Place → List Token
  | gap => []
  | word text | quoted text => [.word (String.ofList text)]

mutual

/-- Reads on after the tokens of a command line. -/
def scan (tokens : List Token) (place : Place) : List Char → Option (List Command)
  | [] =>
    match place with
    | .quoted _ => none
    | place =>
      ((commandLine (tokens ++ place.tokens)).filter (·.delimiter.isNone)).map (·.commands none)
  | c :: cs =>
    match place with
    | .quoted text =>
      if c = '\'' then scan tokens (.word text) cs else scan tokens (.quoted (text ++ [c])) cs
    | place =>
      if isPlain c then scan tokens (.word (place.text ++ [c])) cs
      else
        match c, place, cs with
        | '\'', place, cs => scan tokens (.quoted place.text) cs
        | ' ', place, cs | '\t', place, cs => scan (tokens ++ place.tokens) .gap cs
        | '\n', place, cs =>
          match commandLine (tokens ++ place.tokens) with
          | none => none
          | some line =>
            match line.delimiter with
            | none => (scan [] .gap cs).map (line.commands none ++ ·)
            | some delimiter => scanDocument line delimiter [] [] cs
        | '\\', place, '\n' :: cs => scan tokens place cs
        | '\\', place, d :: cs => scan tokens (.word (place.text ++ [d])) cs
        | '>', .gap, cs => scan (tokens ++ [.output]) .gap cs
        | '<', .gap, '<' :: '\'' :: cs => scan (tokens ++ [.document]) (.quoted []) cs
        | _, _, _ => none

/-- Reads on in the document of a command line: its lines so far, and the one under way. -/
def scanDocument (line : Line) (delimiter : String) (lines : List String) (text : List Char) :
    List Char → Option (List Command)
  | [] => if String.ofList text = delimiter then some (line.commands (some lines)) else none
  | c :: cs =>
    if c ≠ '\n' then scanDocument line delimiter lines (text ++ [c]) cs
    else if String.ofList text = delimiter then
      (scan [] .gap cs).map (line.commands (some lines) ++ ·)
    else scanDocument line delimiter (lines ++ [String.ofList text]) [] cs

end

/-- The commands of a script. -/
def commandsOf (script : String) : Option (List Command) := scan [] .gap script.toList

/-! ### Quotes -/

/-- Whether a place is outside of quotes. -/
def Place.Outside : Place → Prop
  | gap | word _ => True
  | quoted _ => False

theorem Place.outside_gap : gap.Outside := trivial

theorem Place.outside_word (text : List Char) : (word text).Outside := trivial

section Quotes
variable {tokens : List Token} {place : Place} {text cs : List Char}

theorem scan_quote (h : place.Outside) :
    scan tokens place ('\'' :: cs) = scan tokens (.quoted place.text) cs := by
  cases place with
  | gap => rfl
  | word text => rfl
  | quoted text => exact h.elim

theorem scan_blank (h : place.Outside) :
    scan tokens place (' ' :: cs) = scan (tokens ++ place.tokens) .gap cs := by
  cases place with
  | gap => rfl
  | word text => rfl
  | quoted text => exact h.elim

theorem scan_plain {c : Char} (h : place.Outside) (hc : isPlain c = true) :
    scan tokens place (c :: cs) = scan tokens (.word (place.text ++ [c])) cs := by
  cases place with
  | gap =>
    rw [scan.eq_def]
    exact if_pos hc
  | word text =>
    rw [scan.eq_def]
    exact if_pos hc
  | quoted text => exact h.elim

/-- A word ends at the end of its line. -/
theorem scan_newline (h : place.Outside) :
    scan tokens place ('\n' :: cs) = scan (tokens ++ place.tokens) .gap ('\n' :: cs) := by
  cases place with
  | gap => simp [Place.tokens]
  | word text => simp [scan, Place.tokens, isPlain]
  | quoted text => exact h.elim

theorem scan_quotedChar (c : Char) :
    scan tokens (.quoted text) (InstallPlan.quotedChar c ++ cs) =
      scan tokens (.quoted (text ++ [c])) cs := by
  unfold InstallPlan.quotedChar
  split
  · next h =>
    subst h
    rfl
  · next h =>
    rw [List.singleton_append, scan]
    exact if_neg h

/-- Quoting is undone: a quoted text adds the text to the word under way. -/
theorem scan_shellQuote (h : place.Outside) (s : String) :
    scan tokens place ((InstallPlan.shellQuote s).toList ++ cs) =
      scan tokens (.word (place.text ++ s.toList)) cs := by
  have hchars (s text : List Char) :
      scan tokens (.quoted text) (s.flatMap InstallPlan.quotedChar ++ '\'' :: cs) =
        scan tokens (.word (text ++ s)) cs := by
    induction s generalizing text with
    | nil => rw [List.append_nil]; rfl
    | cons c s ih =>
      rw [List.flatMap_cons, List.append_assoc, scan_quotedChar, ih, List.append_assoc]
      rfl
  rw [InstallPlan.shellQuote, String.toList_ofList, List.cons_append, List.append_assoc,
    scan_quote h]
  exact hchars s.toList place.text

end Quotes

/-! ### Words and lines -/

/-- A part of a word: characters without a meaning, or a text in quotes. -/
inductive Part where
  | plain (s : String)
  | quoted (s : String)

/-- The characters of a part in a script. -/
def Part.chars : Part → List Char
  | plain s => s.toList
  | quoted s => (InstallPlan.shellQuote s).toList

/-- The characters that a part stands for. -/
def Part.text : Part → List Char
  | plain s | quoted s => s.toList

/-- Whether a part is read as what it stands for. -/
def Part.isSound : Part → Bool
  | plain s => !s.toList.isEmpty && s.toList.all isPlain
  | quoted _ => true

/-- A piece of a command line, which stands between blanks. -/
inductive Piece where
  | word (first : Part) (more : List Part)
  | output
  | document (delimiter : String)

/-- The characters of a piece in a script. -/
def Piece.chars : Piece → List Char
  | word first more => (first :: more).flatMap Part.chars
  | output => ['>']
  | document delimiter => '<' :: '<' :: (InstallPlan.shellQuote delimiter).toList

/-- What a piece is read as. -/
def Piece.tokens : Piece → List Token
  | word first more => [.word (String.ofList ((first :: more).flatMap Part.text))]
  | output => [.output]
  | document delimiter => [.document, .word delimiter]

/-- Whether a piece is read as what it stands for. -/
def Piece.isSound : Piece → Bool
  | word first more => (first :: more).all Part.isSound
  | output | document _ => true

/-- The characters of a command line. -/
def lineChars : List Piece → List Char
  | [] => []
  | [piece] => piece.chars
  | piece :: next :: more => piece.chars ++ ' ' :: lineChars (next :: more)

section Lines
variable {tokens : List Token} {place : Place} {text cs : List Char}

theorem scan_part (h : place.Outside) {part : Part} (hpart : part.isSound = true) :
    scan tokens place (part.chars ++ cs) = scan tokens (.word (place.text ++ part.text)) cs := by
  cases part with
  | quoted s => exact scan_shellQuote h s
  | plain s =>
    simp only [Part.isSound, Bool.and_eq_true, Bool.not_eq_true',
      List.isEmpty_eq_false_iff] at hpart
    obtain ⟨hne, hplain⟩ := hpart
    change scan tokens place (s.toList ++ cs) = scan tokens (.word (place.text ++ s.toList)) cs
    generalize s.toList = w at hne hplain
    induction w generalizing place with
    | nil => exact absurd rfl hne
    | cons c w ih =>
      rw [List.all_cons, Bool.and_eq_true] at hplain
      rw [List.cons_append, scan_plain h hplain.1]
      cases w with
      | nil => rfl
      | cons d w =>
        rw [ih (Place.outside_word (place.text ++ [c])) (by simp) hplain.2]
        simp [Place.text]

/-- Parts that stand side by side make one word. -/
theorem scan_parts {parts : List Part} (hparts : parts.all Part.isSound = true) :
    scan tokens (.word text) (parts.flatMap Part.chars ++ cs) =
      scan tokens (.word (text ++ parts.flatMap Part.text)) cs := by
  induction parts generalizing text with
  | nil => rw [List.flatMap_nil, List.flatMap_nil, List.append_nil, List.nil_append]
  | cons part parts ih =>
    rw [List.all_cons, Bool.and_eq_true] at hparts
    rw [List.flatMap_cons, List.append_assoc, scan_part (Place.outside_word text) hparts.1,
      ih hparts.2]
    simp [Place.text]

/-- A piece is read up to the blank or the end of the line after it. -/
theorem scan_piece {piece : Piece} (h : piece.isSound = true) {c : Char} (hc : c = ' ' ∨ c = '\n') :
    scan tokens .gap (piece.chars ++ c :: cs) = scan (tokens ++ piece.tokens) .gap (c :: cs) := by
  have hend {tokens : List Token} {place : Place} (h : place.Outside) :
      scan tokens place (c :: cs) = scan (tokens ++ place.tokens) .gap (c :: cs) := by
    rcases hc with rfl | rfl
    · rw [scan_blank h, scan_blank Place.outside_gap]
      simp [Place.tokens]
    · exact scan_newline h
  cases piece with
  | output => rfl
  | word first more =>
    rw [Piece.isSound, List.all_cons, Bool.and_eq_true] at h
    rw [Piece.chars, List.flatMap_cons, List.append_assoc, scan_part Place.outside_gap h.1,
      scan_parts h.2, hend (Place.outside_word _)]
    rfl
  | document delimiter =>
    have hopen : scan tokens .gap ((Piece.document delimiter).chars ++ c :: cs) =
        scan (tokens ++ [.document]) .gap
          ((InstallPlan.shellQuote delimiter).toList ++ c :: cs) := by
      rw [Piece.chars, InstallPlan.shellQuote, String.toList_ofList]
      rfl
    rw [hopen, scan_shellQuote Place.outside_gap, hend (Place.outside_word _)]
    simp [Piece.tokens, Place.tokens, Place.text]

/-- A line is read piece by piece. -/
theorem scan_line {pieces : List Piece} (h : pieces.all Piece.isSound = true) :
    scan tokens .gap (lineChars pieces ++ '\n' :: cs) =
      scan (tokens ++ pieces.flatMap Piece.tokens) .gap ('\n' :: cs) := by
  induction pieces generalizing tokens with
  | nil => simp [lineChars]
  | cons piece pieces ih =>
    rw [List.all_cons, Bool.and_eq_true] at h
    cases pieces with
    | nil =>
      rw [lineChars, scan_piece h.1 (.inr rfl)]
      simp
    | cons next more =>
      rw [lineChars, List.append_assoc, List.cons_append, scan_piece h.1 (.inl rfl),
        scan_blank Place.outside_gap, ih h.2]
      simp [Place.tokens]

/-- At the end of a line, the reader goes on with the next line, or with the document. -/
theorem scan_lineEnd {line : Line} (h : commandLine tokens = some line) :
    scan tokens .gap ('\n' :: cs) =
      match line.delimiter with
      | none => (scan [] .gap cs).map (line.commands none ++ ·)
      | some delimiter => scanDocument line delimiter [] [] cs := by
  have hnewline : isPlain '\n' = false := rfl
  rw [scan.eq_def]
  simp only [hnewline, Place.tokens, List.append_nil, h, Bool.false_eq_true, if_false]

theorem ofTokens_words (words : List String) (tokens : List Token) :
    Line.ofTokens (words.map .word ++ tokens) =
      (Line.ofTokens tokens).map fun l => { l with words := words ++ l.words } := by
  induction words with
  | nil => simp
  | cons w words ih =>
    rw [List.map_cons, List.cons_append, Line.ofTokens, ih, Option.map_map]
    rfl

/-- A line of words is read as the command of the words. -/
theorem scan_words {pieces : List Piece} (name : String) (args : List String)
    (h : pieces.all Piece.isSound = true)
    (htokens : pieces.flatMap Piece.tokens = (name :: args).map .word)
    (hname : name ∉ reserved) :
    scan [] .gap (lineChars pieces ++ '\n' :: cs) =
      (scan [] .gap cs).map (.plain (name :: args) :: ·) := by
  have hline : commandLine (pieces.flatMap Piece.tokens) = some ⟨name :: args, none, none⟩ := by
    have hwords := ofTokens_words (name :: args) []
    rw [List.append_nil] at hwords
    rw [htokens, commandLine, hwords]
    simp [Line.ofTokens, Option.filter, hname]
  rw [scan_line h, List.nil_append, scan_lineEnd hline]
  rfl

/-- A line of a document is compared with the delimiter. -/
theorem scanDocument_line {line : Line} {delimiter : String} {lines : List String} {s : List Char}
    (h : '\n' ∉ s) :
    scanDocument line delimiter lines text (s ++ '\n' :: cs) =
      if String.ofList (text ++ s) = delimiter then
        (scan [] .gap cs).map (line.commands (some lines) ++ ·)
      else scanDocument line delimiter (lines ++ [String.ofList (text ++ s)]) [] cs := by
  induction s generalizing text with
  | nil =>
    rw [List.append_nil]
    rfl
  | cons c s ih =>
    simp only [List.mem_cons, not_or] at h
    rw [List.cons_append, scanDocument, if_pos (Ne.symm h.1), ih h.2, List.append_assoc]
    rfl

end Lines

end NodeFleet.Posix
