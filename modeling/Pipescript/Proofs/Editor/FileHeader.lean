import Mathlib.Data.List.TakeWhile
import Pipescript.Proofs.Editor.DocumentRun
import Pipescript.Proofs.Text.Utf8

/-!
# The header line of a file

Of an open script the whole text is looked at for the header line, of a file only the bytes of its
first line, without its line end.  The first line of a text is followed by nothing or by a character
that the header line does not have, so both ways find the same.
-/

namespace Pipescript

open Text

/-- What a part of a text is in front of does not matter from a character on that the part does not
have. -/
theorem isPrefix_append_cons_iff
    {part : Text} {c : Char}
    (absent : c ∉ part)
    (front behind : Text) :
    part <+: front ++ c :: behind ↔ part <+: front := by
  constructor
  · intro whole
    rcases List.prefix_or_prefix_of_prefix whole (List.prefix_append front (c :: behind)) with
      inFront | ⟨more, rfl⟩
    · exact inFront
    · cases more with
      | nil => simp
      | cons d more =>
          obtain ⟨rfl, -⟩ := List.cons_prefix_cons.1 ((List.prefix_append_right_inj front).1 whole)
          exact absurd (by simp) absent
  · exact fun inFront => inFront.trans (List.prefix_append _ _)

namespace LineShift

/-- Up to a line feed the bytes of a text are those of what is before its first line feed. -/
theorem takeWhile_utf8Bytes (text : Text) :
    text.utf8Bytes.takeWhile (· != 10) = utf8Bytes (text.takeWhile (· != '\n')) := by
  induction text with
  | nil => rfl
  | cons c rest inductionHypothesis =>
      rw [utf8Bytes_cons]
      by_cases feed : c = '\n'
      · subst feed
        rfl
      · have noFeed : ∀ byte ∈ String.utf8EncodeChar c, (byte != 10) = true := by
          intro byte member
          rw [bne_iff_ne]
          rintro rfl
          exact feed (@eq_of_mem_utf8EncodeChar c '\n' (by decide) member)
        rw [List.takeWhile_append_of_pos noFeed, inductionHypothesis,
          List.takeWhile_cons_of_pos (by simpa using feed), utf8Bytes_cons]

/-- The first line of a text is followed by nothing or by a line end. -/
theorem exists_firstLine_utf8Bytes (text : Text) :
    ∃ line, firstLine text.utf8Bytes = line.utf8Bytes ∧
      (line = text ∨ ∃ c behind, (c = '\n' ∨ c = '\r') ∧ text = line ++ c :: behind) := by
  have parts := List.takeWhile_append_dropWhile (p := (· != '\n')) (l := text)
  unfold firstLine
  rw [takeWhile_utf8Bytes]
  generalize text.takeWhile (· != '\n') = line at parts ⊢
  cases rest : text.dropWhile (· != '\n') with
  | nil =>
      rw [rest, List.append_nil] at parts
      subst parts
      refine ⟨line, ?_, .inl rfl⟩
      simp
  | cons c behind =>
      have stops := List.head?_dropWhile_not (· != '\n') text
      rw [rest] at stops parts
      obtain rfl : c = '\n' := by simpa using stops
      dsimp only
      split
      · next ends =>
          have last : (utf8Bytes line).getLast? = some (UInt8.ofNat '\r'.toNat) := by
            simpa using (Bool.and_eq_true_iff.1 ends).2
          obtain ⟨front, rfl⟩ := @exists_of_getLast?_utf8Bytes line '\r' (by decide) last
          refine ⟨front, ?_, .inr ⟨'\r', '\n' :: behind, .inr rfl, by simp [← parts]⟩⟩
          rw [utf8Bytes_append]
          exact List.dropLast_concat
      · exact ⟨line, rfl, .inr ⟨'\n', behind, .inl rfl, parts.symm⟩⟩

/-- A text starts with the header line just if its first line does. -/
theorem startsWithHeader_firstLine (text : Text) :
    (ofUtf8? (firstLine text.utf8Bytes)).map startsWithHeader = some (startsWithHeader text) := by
  obtain ⟨line, sameBytes, ends⟩ := exists_firstLine_utf8Bytes text
  rw [sameBytes, ofUtf8?_utf8Bytes, Option.map_some, Option.some.injEq]
  rcases ends with rfl | ⟨c, behind, isEnd, rfl⟩
  · rfl
  · have absent : c ∉ headerLine := by
      rcases isEnd with rfl | rfl <;> decide
    unfold startsWithHeader
    rw [Bool.eq_iff_iff, List.isPrefixOf_iff_prefix, List.isPrefixOf_iff_prefix,
      isPrefix_append_cons_iff absent]

theorem fileHasHeader_of_text?
    {surroundings : Surroundings} {uri : Uri} {text : Text}
    (found : uri.filePath?.bind surroundings.text? = some text) :
    fileHasHeader surroundings uri = startsWithHeader text := by
  obtain ⟨path, isPath, isText⟩ := Option.bind_eq_some_iff.1 found
  obtain ⟨bytes, isFile, decoded⟩ := Option.bind_eq_some_iff.1 isText
  obtain rfl := ofUtf8?_eq_some_iff.1 decoded
  unfold fileHasHeader
  rw [isPath, Option.bind_some, isFile]
  dsimp only
  rw [startsWithHeader_firstLine, Option.getD_some]

/-- A script that is not open is shifted as it would be if it were opened with the text of its file.
A script whose file is not there or cannot be read is shifted, and so is one with a first line that
is no text.  A file of the host language is not shifted. -/
theorem ofFile_agrees (surroundings : Surroundings) (uri : Uri) :
    (isScriptUri uri →
      (∀ text, uri.filePath?.bind surroundings.text? = some text →
        ofFile surroundings uri = ⟨(withHeader text).2⟩ ∧
          ∀ version, ofFile surroundings uri = (Document.ofText uri text version).shift) ∧
      (uri.filePath?.bind surroundings.bytes? = none → ofFile surroundings uri = ⟨true⟩) ∧
      ∀ bytes, uri.filePath?.bind surroundings.bytes? = some bytes →
        ofUtf8? (firstLine bytes) = none → ofFile surroundings uri = ⟨true⟩) ∧
    (isScriptUri uri = false →
      ofFile surroundings uri = .identity ∧
        ∀ text version, (Document.ofText uri text version).shift = .identity) := by
  have opened : ∀ text version, (Document.ofText uri text version).shift =
      if isScriptUri uri then ⟨(withHeader text).2⟩ else .identity :=
    fun text version => Document.shift_of_isCoherent (Document.isCoherent_ofText uri text version)
  constructor
  · intro script
    have shifted : ofFile surroundings uri = ⟨!fileHasHeader surroundings uri⟩ := if_pos script
    refine ⟨fun text found => ?_, fun nothing => ?_, fun bytes found broken => ?_⟩
    · have same : ofFile surroundings uri = ⟨(withHeader text).2⟩ := by
        rw [shifted, fileHasHeader_of_text? found, withHeader]
        split <;> simp_all
      refine ⟨same, fun version => ?_⟩
      rw [same, opened, if_pos script]
    · rw [shifted, fileHasHeader, nothing]
      rfl
    · rw [shifted, fileHasHeader, found]
      dsimp only
      rw [broken]
      rfl
  · intro host
    have noScript : ¬ isScriptUri uri = true := by simp [host]
    exact ⟨if_neg noScript, fun text version => by rw [opened, if_neg noScript]⟩

/-- A script with the header line before a carriage return. -/
def returnedScript : Text :=
  headerLine ++ "\r\na -> b\n".toList

/-- A file name that is no text: a byte that UTF-8 does not have, and the extension of scripts. -/
def unreadableName : FileName :=
  255 :: utf8Bytes scriptExtension

def returnedScriptUri : Uri :=
  ⟨"file".toList, some .nobody, "/%FF.bess".toList, none, none⟩

def returnedScriptFiles : Surroundings :=
  ⟨⟨[([unreadableName], .file returnedScript.utf8Bytes)]⟩, ⟨[Path.slash], none⟩, none⟩

theorem filePath?_returnedScriptUri :
    returnedScriptUri.filePath? = some (Path.slash :: unreadableName) := by
  decide +kernel

theorem text?_returnedScript :
    returnedScriptUri.filePath?.bind returnedScriptFiles.text? = some returnedScript := by
  have bytes : returnedScriptFiles.bytes? (Path.slash :: unreadableName) =
      some returnedScript.utf8Bytes := rfl
  rw [filePath?_returnedScriptUri, Option.bind_some, Surroundings.text?, bytes, Option.bind_some,
    ofUtf8?_utf8Bytes]

/-- It does not matter that the path of the file is no text. -/
theorem ofFile_agrees_returnedScript :
    isScriptUri returnedScriptUri ∧
      returnedScriptUri.filePath?.bind ofUtf8? = none ∧
      returnedScriptUri.filePath?.bind returnedScriptFiles.text? = some returnedScript ∧
        ofFile returnedScriptFiles returnedScriptUri = ⟨(withHeader returnedScript).2⟩ ∧
          ofFile returnedScriptFiles returnedScriptUri = ⟨false⟩ := by
  have script : isScriptUri returnedScriptUri := by decide
  have noText : returnedScriptUri.filePath?.bind ofUtf8? = none := by decide +kernel
  have same := (((ofFile_agrees returnedScriptFiles returnedScriptUri).1 script).1 returnedScript
    text?_returnedScript).1
  have present : (withHeader returnedScript).2 = false := by decide
  exact ⟨script, noText, text?_returnedScript, same, by rw [same, present]⟩

end LineShift

end Pipescript
