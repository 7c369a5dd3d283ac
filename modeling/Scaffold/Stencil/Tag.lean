import Scaffold.Stencil.Reading

/-!
# Tags

A stencil source is a sequence of text and tags. A tag says what stands in a hole, whether it
removes the white space before or after it, and how it stands on its line: which blanks precede it
there, and whether nothing else does. A backslash before a tag makes text of its braces, and of
several backslashes there the first is dropped.
-/

namespace Scaffold.Stencil

/-- What stands in a hole. -/
inductive TagKind where
  | output (call : Call)
  | opening (call : Call) (names : List Text)
  | otherwise
  | otherwiseBlock (call : Call) (names : List Text)
  /-- The end of a block, with its name, which may be left out of some. -/
  | closing (name : Option Text)
  | inclusion (call : Call)
  | inclusionOpening (call : Call)
  | definition (call : Call)
  | definitionOpening (call : Call)
  | comment

/-- What stands in a hole and which white space it removes. -/
structure Tag where
  kind : TagKind
  trimsBefore : Bool
  trimsAfter : Bool

/-- A part of a stencil source. -/
inductive Piece where
  /-- Text without the backslashes that protect braces. It may be nothing but blanks. -/
  | text (content : Text) (isGap : Bool)
  /-- A tag, the blanks before it on its line, whether only blanks precede it there, and whether
  only blanks and a line end follow it. -/
  | tag (tag : Tag) (indentation : Text) (opensLine closesLine : Bool)

/-- What follows the opening braces: whether white space before is removed, and the rest. -/
def afterOpening (text : Text) : Bool × Text :=
  match skipSpace text with
  | '~' :: rest => (true, skipSpace rest)
  | rest => (false, rest)

/-- Reads the closing braces: whether white space after is removed, and the rest. -/
def closing? (braces : Text) (text : Text) : Option (Bool × Text) :=
  match skipSpace text with
  | '~' :: rest => (Text.after? braces (skipSpace rest)).map fun rest => (true, rest)
  | rest => (Text.after? braces rest).map fun rest => (false, rest)

/-- Two opening braces. -/
def openingBraces : Text :=
  ['\x7b', '\x7b']

/-- Two closing braces. -/
def closingBraces : Text :=
  ['\x7d', '\x7d']

/-- The tag whose content reads as `content`. -/
def closedTag (trimsBefore : Bool) (content : Match (TagKind × Text)) : Match (Tag × Text) := do
  let (kind, rest) ← content
  let (trimsAfter, rest) ← closing? closingBraces rest
  .ok (⟨kind, trimsBefore, trimsAfter⟩, rest)

/-- The text after the word or sign of the other case. -/
def otherwise? (text : Text) : Option Text :=
  match Text.after? "else".toList text with
  | some rest => some rest
  | none => Text.after? "^".toList text

/-- The tag that starts the other case of a block. -/
def readOtherwiseTag (trimsBefore : Bool) (text : Text) : Match (Tag × Text) := do
  let rest ← otherwise? text
  (closedTag trimsBefore (.ok (.otherwise, rest))).orElse fun _ =>
    closedTag trimsBefore do
      let ((call, names), rest) ← readBlock (skipSpace rest)
      .ok (.otherwiseBlock call names, rest)

/-- The tag of a value: a helper with arguments, or a name. -/
def readOutputTag (trimsBefore : Bool) (text : Text) : Match (Tag × Text) :=
  closedTag trimsBefore do
    let (call, rest) ← readOutput text
    .ok (.output call, rest)

/-- The tag of a value between triple braces, after the opening ones. White space is removed where a
tilde stands inside the braces. -/
def readTripleTag (text : Text) : Match (Tag × Text) := do
  let (trimsBefore, start) := afterOpening text
  let (call, rest) ← readOutput start
  let (trimsAfter, rest) ← closing? ('\x7d' :: closingBraces) rest
  .ok (⟨.output call, trimsBefore, trimsAfter⟩, rest)

/-- The tag of a value in a third pair of braces, after its opening one. White space is removed
where a tilde stands between this pair and the others. -/
def readInnerTag (trimsBefore : Bool) (text : Text) : Match (Tag × Text) :=
  closedTag trimsBefore do
    let (call, rest) ← readOutput (skipSpace text)
    let rest ← Text.after? ['\x7d'] (skipSpace rest)
    .ok (.output call, rest)

/-- A comment, which ends at the first closing braces, or at two hyphens and closing braces if it
starts with two hyphens and these are found. -/
def commentTag? (text : Text) : Option (Tag × Text) :=
  let long :=
    (Text.after? "--".toList (skipSpace text)).bind
      (Text.cutAt? ("--".toList ++ closingBraces))
  match long with
  | some (_, rest) => some (⟨.comment, false, false⟩, rest)
  | none => (Text.cutAt? closingBraces text).map fun (_, rest) => (⟨.comment, false, false⟩, rest)

/-- What stands in a tag that opens a block, told by its first character. -/
def readOpening (text : Text) : Match (TagKind × Text) :=
  match text with
  | '*' :: rest => do
    let ((call, _), rest) ← readBlock (skipSpace rest)
    .ok (.definitionOpening call, rest)
  | '>' :: rest => do
    let (call, rest) ← readInclusion (skipSpace rest)
    .ok (.inclusionOpening call, rest)
  | _ => do
    let ((call, names), rest) ← readBlock text
    .ok (.opening call names, rest)

/-- The name in a closing tag, which is a word or the name of another stencil, if there is one. -/
def closingName (text : Text) : Option Text × Text :=
  let symbols := run? (fun character => isSymbol character || isNameSymbol character) text
  match symbols.orElse fun _ => stencilName? text with
  | some (name, rest) => (some name, rest)
  | none => (none, text)

/-- The tag after opening braces and what may remove white space, told by its first character. -/
def readMarkedTag (trimsBefore : Bool) (text : Text) : Match (Tag × Text) :=
  match text with
  | '\x7b' :: rest => readInnerTag trimsBefore rest
  | '&' :: rest =>
    closedTag trimsBefore do
      let (name, rest) ← readName (skipSpace rest)
      .ok (.output ⟨name, [], []⟩, rest)
  | '#' :: rest => closedTag trimsBefore (readOpening (skipSpace rest))
  | '*' :: rest =>
    closedTag trimsBefore do
      let ((call, _), rest) ← readBlock (skipSpace rest)
      .ok (.definition call, rest)
  | '/' :: rest =>
    let (name, rest) := closingName (skipSpace rest)
    closedTag trimsBefore (.ok (.closing name, rest))
  | '>' :: rest =>
    closedTag trimsBefore do
      let (call, rest) ← readInclusion (skipSpace rest)
      .ok (.inclusion call, rest)
  | _ => .error .other

/-- The tag after two opening braces, and the text that follows it. -/
def readTag (text : Text) : Match (Tag × Text) :=
  match text with
  | '!' :: rest => liftM (commentTag? rest)
  | _ =>
    let (trimsBefore, start) := afterOpening text
    (readOtherwiseTag trimsBefore start).orElse fun _ =>
      (readOutputTag trimsBefore start).orElse fun _ =>
        let triple : Match (Tag × Text) := do readTripleTag (← Text.after? ['\x7b'] text)
        triple.orElse fun _ => readMarkedTag trimsBefore start

/-- Four opening braces. -/
def rawOpening : Text :=
  ['\x7b', '\x7b', '\x7b', '\x7b']

/-- Four closing braces. -/
def rawClosing : Text :=
  ['\x7d', '\x7d', '\x7d', '\x7d']

/-- The opening tag of a block whose body is not read as a stencil. -/
def readRawOpening (text : Text) : Match (Tag × Text) := do
  let rest ← Text.after? rawOpening text
  let (trimsBefore, rest) := afterOpening rest
  let ((call, names), rest) ← readBlock rest
  let (trimsAfter, rest) ← closing? rawClosing rest
  .ok (⟨.opening call names, trimsBefore, trimsAfter⟩, rest)

/-- The closing tag of a block whose body is not read as a stencil. -/
def rawClosingTag? (text : Text) : Option (Tag × Text) := do
  let rest ← Text.after? rawOpening text
  let (trimsBefore, rest) := afterOpening rest
  let rest ← Text.after? ['/'] rest
  let (name, rest) ← word? (skipSpace rest)
  let (trimsAfter, rest) ← closing? rawClosing rest
  some (⟨.closing (some name), trimsBefore, trimsAfter⟩, rest)

/-- The backslashes at the start of a text that ends where opening braces follow them: the text that
they and the braces they protect stand for, and the rest. -/
def escape (text : Text) : Option (Text × Text) :=
  let count := (text.takeWhile (· == '\\')).length
  let rest := text.drop count
  if count = 0 || !openingBraces.isPrefixOf rest then
    none
  else if count = 1 then
    if rawOpening.isPrefixOf rest then
      some (rawOpening, rest.drop 4)
    else
      some (rest.take 2, rest.drop 2)
  else
    some (List.replicate (count - 1) '\\', rest)

/-- The text before the next occurrence of `stop` that is not protected, and the rest. The number of
steps is bounded by `fuel`. -/
def textUntil (stop : Text) : (fuel : Nat) → Text → Text × Text
  | 0, text => ([], text)
  | _ + 1, [] => ([], [])
  | fuel + 1, character :: following =>
    let text := character :: following
    match escape text with
    | some (content, rest) =>
      let (others, rest) := textUntil stop fuel rest
      (content ++ others, rest)
    | none =>
      if stop.isPrefixOf text then
        ([], text)
      else
        let (others, rest) := textUntil stop fuel following
        (character :: others, rest)

/-- Whether a text is empty or starts with blanks and a line end. -/
def closesLine (text : Text) : Bool :=
  text.isEmpty || (text.dropWhile isIndentation).head?.any isLineEnd

/-- Whether a text, given in reverse order, ends in a line end and blanks, or is nothing but
blanks. -/
def opensLine (before : Text) : Bool :=
  match before.dropWhile isIndentation with
  | [] => true
  | character :: _ => isLineEnd character

/-- The blanks at the end of a text given in reverse order. -/
def indentationOf (before : Text) : Text :=
  (before.takeWhile isIndentation).reverse

/-- A tag on its line, between the reversed text `before` and the text `rest`. -/
def placed (tag : Tag) (before rest : Text) : Piece :=
  .tag tag (indentationOf before) (opensLine before) (closesLine rest)

/-- The reversed text before `rest`, which is what `text` ends in. -/
def passed (before text rest : Text) : Text :=
  (text.take (text.length - rest.length)).reverse ++ before

/-- The pieces of a stencil source that follow the reversed text `before`. -/
def piecesFrom? : (fuel : Nat) → (before text : Text) → Option (List Piece)
  | 0, _, _ => none
  | _ + 1, _, [] => some []
  | fuel + 1, before, text =>
    match Text.after? openingBraces text with
    | none =>
      let (content, rest) := textUntil openingBraces (text.length + 1) text
      let isGap := (text.take (text.length - rest.length)).all isSpace
      (piecesFrom? fuel (passed before text rest) rest).map (.text content isGap :: ·)
    | some inner =>
      match readTag inner with
      | .ok (tag, rest) =>
        (piecesFrom? fuel (passed before text rest) rest).map (placed tag before rest :: ·)
      | .error .badLiteral => none
      | .error .other => do
        let (opening, afterOpening) ← (readRawOpening text).toOption
        let body := skipSpace afterOpening
        let (content, afterBody) := textUntil rawOpening (body.length + 1) body
        let (closing, rest) ← rawClosingTag? afterBody
        let pieces ← piecesFrom? fuel (passed before text rest) rest
        some
          (placed opening before afterOpening :: .text content false ::
            placed closing (passed before text afterBody) rest :: pieces)

/-- The pieces of a stencil source, when every opening brace belongs to a tag. -/
def pieces? (source : Text) : Option (List Piece) :=
  piecesFrom? (source.length + 1) [] source

end Scaffold.Stencil
