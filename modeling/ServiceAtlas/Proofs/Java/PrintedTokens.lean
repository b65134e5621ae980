import ServiceAtlas.Java.Token
import ServiceAtlas.Proofs.Java.PrintedProgram

/-!
The tokens of a printed program. They spell its text (`Program.spell_tokens`), and each of them is
what the reader takes at its place, because what follows cannot extend it (`Program.stand_tokens`).
Only an annotation whose name begins with `interface` is taken for something else, so such names are
left out.
-/

namespace ServiceAtlas.Java

def wordToken (lead : List Char) (text : String) : Token := ⟨lead, .word, text⟩

def signToken (lead : List Char) (text : String) : Token := ⟨lead, .sign, text⟩

def pathToken (lead : List Char) (p : PathText) : Token := ⟨lead, .string, p.quoted⟩

/-- Items, each after a comma and a blank. -/
def moreTokens {α : Type} (item : List Char → α → List Token) (as : List α) : List Token :=
  as.flatMap fun a => signToken [] "," :: item [' '] a

/-- Items with a comma and a blank between them. -/
def commaTokens {α : Type} (item : List Char → α → List Token) : List α → List Token
  | [] => []
  | a :: as => item [] a ++ moreTokens item as

namespace Method

def argumentTokens (m : Method) : List Token :=
  match m.morePaths with
  | [] => [pathToken [] m.path]
  | _ => signToken [] "\x7b" :: commaTokens (fun lead p => [pathToken lead p]) m.paths ++
      [signToken [] "\x7d"]

def tagTokens (lead : List Char) (m : Method) : List Token :=
  [signToken lead "@", wordToken [] m.tag.text, signToken [] "("] ++ m.argumentTokens ++
    [signToken [] ")"]

def parameterTokens (lead : List Char) (p : Name × Name) : List Token :=
  [wordToken lead p.1.text, wordToken [' '] p.2.text]

def headerTokens (m : Method) : List Token :=
  [wordToken ['\n'] m.returnType.text, wordToken [' '] m.name.text, signToken [] "("] ++
    commaTokens parameterTokens m.parameters ++
    [signToken [] ")", signToken [' '] "\x7b", signToken [] "\x7d"]

def tokens (lead : List Char) (m : Method) : List Token := m.tagTokens lead ++ m.headerTokens

end Method

namespace Program

def classTokens (lead : List Char) (name : Name) : List Token :=
  [wordToken lead "class", wordToken [' '] name.text, signToken [' '] "\x7b"]

/-- A class up to its opening brace. -/
def openTokens (lead : List Char) (tag : Option Name) (name : Name) : List Token :=
  match tag with
  | none => classTokens lead name
  | some a => [signToken lead "@", wordToken [] a.text] ++ classTokens ['\n'] name

/-- The tokens, with `lead` before the first of them. -/
def tokens (lead : List Char) : Program → List Token
  | .done => []
  | .type tag name members rest =>
    openTokens lead tag name ++ members.tokens ['\n'] ++ signToken ['\n'] "\x7d" ::
      rest.tokens ['\n']
  | .method m rest => m.tokens lead ++ rest.tokens ['\n']

/-- What follows the last token. -/
def trail (lead : List Char) : Program → List Char
  | .done => lead
  | .type .. => ['\n']
  | .method .. => ['\n']

@[simp] theorem trail_newline (p : Program) : p.trail ['\n'] = ['\n'] := by cases p <;> rfl

end Program

/-! ### Spelling -/

def spell (ts : List Token) : List Char := ts.flatMap Token.chars

@[simp] theorem spell_nil : spell [] = [] := rfl

@[simp] theorem spell_cons (t : Token) (ts : List Token) :
    spell (t :: ts) = t.chars ++ spell ts := rfl

@[simp] theorem spell_append (ts us : List Token) : spell (ts ++ us) = spell ts ++ spell us :=
  List.flatMap_append

@[simp] theorem chars_wordToken (lead : List Char) (s : String) :
    (wordToken lead s).chars = lead ++ s.toList := rfl

@[simp] theorem chars_signToken (lead : List Char) (s : String) :
    (signToken lead s).chars = lead ++ s.toList := rfl

theorem chars_pathToken (lead : List Char) (p : PathText) :
    (pathToken lead p).chars = lead ++ p.quoted.toList := rfl

theorem spell_moreTokens {α : Type} {item : List Char → α → List Token} {text : α → String}
    (h : ∀ lead a, spell (item lead a) = lead ++ (text a).toList) (as : List α) :
    spell (moreTokens item as) = as.flatMap fun a => ", ".toList ++ (text a).toList := by
  induction as with
  | nil => rfl
  | cons a as ih =>
    rw [moreTokens, List.flatMap_cons, spell_append, ← moreTokens, ih]
    simp [h]

theorem spell_commaTokens {α : Type} {item : List Char → α → List Token} {text : α → String}
    (h : ∀ lead a, spell (item lead a) = lead ++ (text a).toList) (as : List α) :
    spell (commaTokens item as) = (", ".intercalate (as.map text)).toList := by
  cases as with
  | nil => rfl
  | cons a as =>
    rw [commaTokens, spell_append, h, spell_moreTokens h]
    induction as generalizing a with
    | nil => simp
    | cons b bs ih =>
      have hb := ih b
      simp only [List.nil_append, List.map_cons] at hb
      simp [String.intercalate_cons_cons, ← hb]

namespace Method

theorem spell_argumentTokens (m : Method) : spell m.argumentTokens = m.argumentText.toList := by
  have hpaths : spell (commaTokens (fun lead p => [pathToken lead p]) m.paths) =
      (", ".intercalate (m.paths.map PathText.quoted)).toList :=
    spell_commaTokens (fun lead p => by simp [chars_pathToken]) m.paths
  unfold argumentTokens argumentText
  cases m.morePaths with
  | nil => simp [chars_pathToken]
  | cons q qs => simp [hpaths]

theorem spell_tagTokens (lead : List Char) (m : Method) :
    spell (m.tagTokens lead) = lead ++ m.tagLine.toList := by
  simp [tagTokens, tagLine, spell_argumentTokens]

theorem spell_headerTokens (m : Method) : spell m.headerTokens = '\n' :: m.headerLine.toList := by
  have hparameters : spell (commaTokens parameterTokens m.parameters) =
      (", ".intercalate (m.parameters.map parameterText)).toList :=
    spell_commaTokens (fun lead p => by simp [parameterTokens, parameterText]) m.parameters
  simp [headerTokens, headerLine, hparameters]

end Method

namespace Program

theorem spell_openTokens (lead : List Char) (tag : Option Name) (name : Name) :
    spell (openTokens lead tag name) ++ ['\n'] =
      lead ++ (tagLines tag ++ ["class " ++ name.text ++ " \x7b"]).flatMap
        fun l => l.toList ++ ['\n'] := by
  cases tag <;> simp [openTokens, classTokens, tagLines]

/-- The tokens spell the text. -/
theorem spell_tokens (lead : List Char) (p : Program) :
    spell (p.tokens lead) ++ p.trail lead = lead ++ p.text.toList := by
  induction p generalizing lead with
  | done => simp [tokens, trail, text, lines, toList_textOfLines]
  | type tag name members rest ihm ihr =>
    have hmembers := ihm ['\n']
    have hrest := ihr ['\n']
    rw [trail_newline, text, toList_textOfLines] at hmembers hrest
    calc spell (openTokens lead tag name ++ members.tokens ['\n'] ++
            signToken ['\n'] "\x7d" :: rest.tokens ['\n']) ++ ['\n']
      _ = spell (openTokens lead tag name) ++ (spell (members.tokens ['\n']) ++ ['\n']) ++
            '}' :: (spell (rest.tokens ['\n']) ++ ['\n']) := by simp
      _ = (spell (openTokens lead tag name) ++ ['\n']) ++
            (members.lines ++ "\x7d" :: rest.lines).flatMap (fun l => l.toList ++ ['\n']) := by
          rw [hmembers, hrest]
          simp
      _ = lead ++ (Program.type tag name members rest).text.toList := by
          rw [spell_openTokens, text, toList_textOfLines]
          simp [lines]
  | method m rest ih =>
    have hrest := ih ['\n']
    rw [trail_newline, text, toList_textOfLines] at hrest
    rw [tokens, trail, spell_append, List.append_assoc, hrest, Method.tokens, spell_append,
      Method.spell_tagTokens, Method.spell_headerTokens, text, toList_textOfLines]
    simp [lines]

end Program

/-! ### Single tokens -/

/-- What a printed program has between two tokens. -/
def AllBlank (cs : List Char) : Prop := ∀ c ∈ cs, c = ' ' ∨ c = '\n'

theorem allBlank_nil : AllBlank [] := by simp [AllBlank]

theorem allBlank_space : AllBlank [' '] := by simp [AllBlank]

theorem allBlank_newline : AllBlank ['\n'] := by simp [AllBlank]

theorem AllBlank.isBlank {cs : List Char} (h : AllBlank cs) : ∀ c ∈ cs, Text.isBlank c = true := by
  intro c hc
  rcases h c hc with rfl | rfl <;> decide

/-- A word cannot go on with the text. -/
def EndsWord (rest : List Char) : Prop := ∀ c ∈ rest.head?, isWordContinue c = false

@[simp] theorem endsWord_cons (c : Char) (cs : List Char) :
    EndsWord (c :: cs) ↔ isWordContinue c = false := by
  simp [EndsWord]

/-- With `rest` behind it, the printed token is the one that is read at its place. -/
structure Token.Stands (t : Token) (rest : List Char) : Prop where
  lead : AllBlank t.lead
  printable : ∀ c ∈ t.text.toList, IsPrintable c
  front : t.text.toList.head?.any (fun c => !Text.isBlank c && c != '/') = true
  lexeme : lexeme? [] (t.text.toList ++ rest) = some ⟨t.kind, t.text.toList, rest, []⟩

theorem isWordStart_of_isNameStart {c : Char} (h : isNameStart nameMarks c = true) :
    isWordStart c = true := by
  simp only [isNameStart, nameMarks, isWordStart, Text.isIdentifierStart, Bool.or_eq_true,
    List.contains_cons, beq_iff_eq, List.contains_nil, Bool.false_eq_true, or_false] at h ⊢
  rcases h with h | h | h
  · exact .inl (.inl (.inl h))
  · exact .inl (.inr h)
  · exact .inr h

theorem isWordContinue_of_isNameContinue {c : Char} (h : isNameContinue nameMarks c = true) :
    isWordContinue c = true := by
  simp only [isNameContinue, nameMarks, isWordContinue, Text.isIdentifierContinue, Bool.or_eq_true,
    List.contains_cons, beq_iff_eq, List.contains_nil, Bool.false_eq_true, or_false] at h ⊢
  rcases h with h | h | h
  · exact .inl (.inl (.inl (.inl (.inl h))))
  · exact .inl (.inl (.inr h))
  · exact .inl (.inr h)

theorem lexeme?_word {c : Char} {cs rest : List Char} (hc : isWordStart c = true)
    (hcs : ∀ d ∈ cs, isWordContinue d = true) (hrest : EndsWord rest) :
    lexeme? [] (c :: cs ++ rest) = some ⟨.word, c :: cs, rest, []⟩ := by
  have htake : rest.takeWhile isWordContinue = [] ∧ rest.dropWhile isWordContinue = rest := by
    cases rest with
    | nil => exact ⟨rfl, rfl⟩
    | cons d ds =>
      rw [endsWord_cons] at hrest
      simp [hrest]
  simp only [lexeme?, List.cons_append, hc, if_true]
  rw [List.takeWhile_append_of_pos hcs, List.dropWhile_append_of_pos hcs, htake.1, htake.2,
    List.append_nil]

theorem stands_word {lead rest : List Char} {w : String} (hlead : AllBlank lead)
    (hw : isWord nameMarks w.toList = true) (hrest : EndsWord rest) :
    (wordToken lead w).Stands rest := by
  have hprintable := isPrintable_of_isWord (by decide) hw
  obtain ⟨c, cs, htext, hc, hcs⟩ := isWord_iff.1 hw
  refine ⟨hlead, hprintable, ?_, ?_⟩
  · have hne : ∀ d, isNameStart nameMarks d = false → c ≠ d := by
      rintro d hd rfl
      simp [hc] at hd
    have hblank : Text.isBlank c = false :=
      (hprintable c (htext ▸ List.mem_cons_self)).isBlank (hne ' ' (by decide))
    simp [wordToken, htext, hblank, hne '/' (by decide)]
  · show lexeme? [] (w.toList ++ rest) = some ⟨.word, w.toList, rest, []⟩
    rw [htext]
    exact lexeme?_word (isWordStart_of_isNameStart hc)
      (fun d hd => isWordContinue_of_isNameContinue (hcs d hd)) hrest

theorem Name.stands {lead rest : List Char} (hlead : AllBlank lead) (w : Name)
    (hrest : EndsWord rest) : (wordToken lead w.text).Stands rest :=
  stands_word hlead w.isWord hrest

theorem stringPiece?_path {cs : List Char} (hcs : ∀ c ∈ cs, isPathChar c = true)
    (taken rest : List Char) :
    stringPiece? taken (cs ++ '"' :: rest) =
      some (.closed, '"' :: (cs.reverse ++ taken), rest) := by
  induction cs generalizing taken with
  | nil => rfl
  | cons c cs ih =>
    have hc := hcs c List.mem_cons_self
    simp only [isPathChar, Bool.and_eq_true, bne_iff_ne] at hc
    rw [List.cons_append, stringPiece?.eq_4 _ _ _ hc.1.2 (fun _ h => absurd h hc.2)
      (fun _ _ h => absurd h hc.2), if_neg hc.2, ih fun d hd => hcs d (List.mem_cons_of_mem c hd)]
    simp

theorem stands_path {lead rest : List Char} (hlead : AllBlank lead)
    (p : PathText) (hrest : rest.head? ≠ some '"') : (pathToken lead p).Stands rest where
  lead := hlead
  printable := p.printable_quoted
  front := by
    simp [pathToken, p.toList_quoted]
    decide
  lexeme := by
    have hp := List.all_eq_true.1 p.valid
    have hpiece := stringPiece?_path hp ['"'] rest
    have htext : (pathToken lead p).text.toList = '"' :: (p.text.toList ++ ['"']) :=
      p.toList_quoted
    -- Two quotes with a third behind them would open a text block.
    have hopen : lexeme? [] ('"' :: (p.text.toList ++ '"' :: rest)) =
        startPiece false [] (stringPiece? ['"'] (p.text.toList ++ '"' :: rest)) := by
      simp only [lexeme?, show isWordStart '"' = false by decide, Bool.false_eq_true, if_false,
        if_true]
      split
      · rename_i after hafter
        cases hcs : p.text.toList with
        | nil =>
          rw [hcs, List.nil_append, List.cons.injEq] at hafter
          simp [hafter.2] at hrest
        | cons c cs =>
          have hc := hp c (hcs ▸ List.mem_cons_self)
          rw [hcs, List.cons_append, List.cons.injEq] at hafter
          simp [hafter.1, isPathChar] at hc
      · rfl
    rw [htext, List.cons_append, List.append_assoc, List.singleton_append, hopen, hpiece]
    simp [startPiece, pieceLexeme, pathToken]

theorem stands_char {lead rest : List Char} {s : String} {c : Char} (hs : s.toList = [c])
    (hlead : AllBlank lead) (hc : IsPrintable c) (hblank : Text.isBlank c = false)
    (hslash : c ≠ '/') (h : lexeme? [] (c :: rest) = some ⟨.sign, [c], rest, []⟩) :
    (signToken lead s).Stands rest where
  lead := hlead
  printable := by simpa [signToken, hs] using hc
  front := by simp [signToken, hs, hblank, hslash]
  lexeme := by simpa [signToken, hs] using h

/-- The signs that cannot be the front of a longer one. -/
theorem stands_sign {lead rest : List Char} {s : String} (hlead : AllBlank lead)
    (hs : s ∈ ["(", ")", ",", "\x7b", "\x7d"]) : (signToken lead s).Stands rest := by
  simp only [List.mem_cons, List.not_mem_nil, or_false] at hs
  rcases hs with rfl | rfl | rfl | rfl | rfl
  all_goals exact stands_char rfl hlead (by decide) (by decide) (by decide) rfl

theorem stands_at {lead rest : List Char} (hlead : AllBlank lead)
    (hrest : ¬ "interface".toList <+: rest) : (signToken lead "@").Stands rest := by
  have hsign : sign? ('@' :: rest) = some ("@", rest) := by
    unfold sign? longSigns
    rw [List.find?_cons_of_neg (by simpa using hrest)]
    rfl
  refine stands_char rfl hlead (by decide) (by decide) (by decide) ?_
  show signLexeme? [] ('@' :: rest) = _
  rw [signLexeme?, hsign]
  rfl

/-- A word that ends before `rest` begins with `interface` only by itself. -/
theorem not_interface_append {w rest : List Char} (hw : ¬ "interface".toList <+: w)
    (hrest : EndsWord rest) : ¬ "interface".toList <+: w ++ rest := by
  intro h
  rcases List.prefix_or_prefix_of_prefix h (List.prefix_append w rest) with h' | ⟨x, hx⟩
  · exact hw h'
  · rw [← hx, List.prefix_append_right_inj] at h
    cases x with
    | nil => exact hw (by simp [← hx])
    | cons c cs =>
      obtain ⟨y, rfl⟩ := h
      rw [List.cons_append, endsWord_cons] at hrest
      have hall := List.all_eq_true.1 (by decide : "interface".toList.all isWordContinue = true)
      rw [hall c (hx ▸ List.mem_append_right w List.mem_cons_self)] at hrest
      cases hrest

/-! ### Token lists -/

/-- Every token is the one that is read at its place. -/
def Stand : List Token → List Char → Prop
  | [], _ => True
  | t :: ts, rest => t.Stands (spell ts ++ rest) ∧ Stand ts rest

theorem stand_append {ts us : List Token} {rest : List Char} :
    Stand (ts ++ us) rest ↔ Stand ts (spell us ++ rest) ∧ Stand us rest := by
  induction ts with
  | nil => simp [Stand]
  | cons t ts ih => simp [Stand, ih, and_assoc]

theorem skipBlanks?_cons {c : Char} (hslash : c ≠ '/') (taken rest : List Char) :
    skipBlanks? taken (c :: rest) =
      if Text.isBlank c then skipBlanks? (c :: taken) rest else some (taken, c :: rest) := by
  rw [skipBlanks?.eq_def]
  split
  · rename_i h
    exact absurd (List.cons.inj h).1 hslash
  · rename_i h
    exact absurd (List.cons.inj h).1 hslash
  · rename_i h
    cases h
    rfl
  · rename_i h
    cases h

theorem skipBlanks?_append {lead : List Char} (hlead : AllBlank lead)
    (taken rest : List Char) :
    skipBlanks? taken (lead ++ rest) = skipBlanks? (lead.reverse ++ taken) rest := by
  induction lead generalizing taken with
  | nil => rfl
  | cons c cs ih =>
    have hc := hlead.isBlank c List.mem_cons_self
    have hslash : c ≠ '/' := by rintro rfl; exact absurd hc (by decide)
    rw [List.cons_append, skipBlanks?_cons hslash, if_pos hc,
      ih fun d hd => hlead d (List.mem_cons_of_mem c hd)]
    simp

theorem scan?_cons {t : Token} {rest trail : List Char} {ts : List Token} (h : t.Stands rest)
    (hrest : scan? [] rest = some (ts, trail)) :
    scan? [] (t.chars ++ rest) = some (t :: ts, trail) := by
  obtain ⟨c, cs, htext⟩ : ∃ c cs, t.text.toList = c :: cs := by
    cases htext : t.text.toList with
    | nil => simpa [htext] using h.front
    | cons c cs => exact ⟨c, cs, rfl⟩
  obtain ⟨hblank, hslash⟩ : Text.isBlank c = false ∧ c ≠ '/' := by simpa [htext] using h.front
  have hskip : skipBlanks? [] (t.chars ++ rest) = some (t.lead.reverse, c :: (cs ++ rest)) := by
    rw [Token.chars, List.append_assoc, skipBlanks?_append h.lead, htext, List.cons_append,
      skipBlanks?_cons hslash, hblank]
    simp
  have hlexeme := h.lexeme
  rw [htext, List.cons_append] at hlexeme
  have hlt : rest.length < (t.chars ++ rest).length := by
    simp [Token.chars, htext]
    omega
  rw [scan?.eq_def, hskip]
  simp only [hlexeme, hlt, if_true, hrest, Option.map_some, List.reverse_reverse, ← htext,
    String.ofList_toList]

theorem scan?_spell {ts : List Token} {trail : List Char} (h : Stand ts trail)
    (htrail : AllBlank trail) :
    scan? [] (spell ts ++ trail) = some (ts, trail) := by
  induction ts with
  | nil =>
    have hskip : skipBlanks? [] trail = some (trail.reverse, []) := by
      have h := skipBlanks?_append htrail [] []
      rwa [List.append_nil, List.append_nil, skipBlanks?.eq_def trail.reverse] at h
    rw [spell_nil, List.nil_append, scan?.eq_def, hskip]
    simp
  | cons t ts ih =>
    rw [spell_cons, List.append_assoc]
    exact scan?_cons h.1 (ih h.2)

/-! ### Printed programs -/

/-- The text goes on behind an item of a list. -/
def EndsItem (rest : List Char) : Prop := ∃ c ∈ [',', ')', '}'], rest.head? = some c

theorem EndsItem.endsWord {rest : List Char} (h : EndsItem rest) : EndsWord rest := by
  obtain ⟨c, hc, h⟩ := h
  intro d hd
  rw [h, Option.mem_some_iff] at hd
  have hall := List.all_eq_true.1
    (by decide : [',', ')', '}'].all (fun c => !isWordContinue c) = true) c hc
  simpa [hd] using hall

theorem EndsItem.head?_ne {rest : List Char} (h : EndsItem rest) : rest.head? ≠ some '"' := by
  obtain ⟨c, hc, h⟩ := h
  rw [h, Ne, Option.some.injEq]
  rintro rfl
  simp at hc

section Lists

variable {α : Type} {item : List Char → α → List Token} {rest : List Char}
  (h : ∀ lead a rest, AllBlank lead → EndsItem rest → Stand (item lead a) rest)
include h

theorem stand_moreTokens (as : List α) (hrest : EndsItem rest) :
    Stand (moreTokens item as) rest ∧ EndsItem (spell (moreTokens item as) ++ rest) := by
  induction as with
  | nil => exact ⟨trivial, hrest⟩
  | cons a as ih =>
    refine ⟨⟨stands_sign allBlank_nil (by simp), ?_⟩, ⟨',', by simp, by simp [moreTokens]⟩⟩
    exact stand_append.2 ⟨h _ a _ allBlank_space ih.2, ih.1⟩

theorem stand_commaTokens (as : List α) (hrest : EndsItem rest) :
    Stand (commaTokens item as) rest := by
  cases as with
  | nil => trivial
  | cons a as =>
    obtain ⟨hmore, hend⟩ := stand_moreTokens h as hrest
    exact stand_append.2 ⟨h _ a _ allBlank_nil hend, hmore⟩

end Lists

theorem IsPlainTag.stands {lead rest : List Char} {tag : Name} (h : IsPlainTag tag)
    (hlead : AllBlank lead) (hrest : EndsWord rest) :
    Stand [signToken lead "@", wordToken [] tag.text] rest :=
  ⟨stands_at hlead (by simpa using not_interface_append h hrest), tag.stands allBlank_nil hrest,
    trivial⟩

namespace Method

theorem stand_argumentTokens (m : Method) {rest : List Char} (hrest : EndsItem rest) :
    Stand m.argumentTokens rest := by
  unfold argumentTokens
  cases m.morePaths with
  | nil => exact ⟨stands_path allBlank_nil m.path hrest.head?_ne, trivial⟩
  | cons q qs =>
    refine ⟨stands_sign allBlank_nil (by simp), stand_append.2 ⟨?_, ?_⟩⟩
    · refine stand_commaTokens ?_ m.paths ⟨'}', by simp, by simp⟩
      intro lead p rest hlead hrest
      exact ⟨stands_path hlead p hrest.head?_ne, trivial⟩
    · exact ⟨stands_sign allBlank_nil (by simp), trivial⟩

theorem stand_tagTokens {lead : List Char} (hlead : AllBlank lead) (m : Method)
    (htag : IsPlainTag m.tag) (rest : List Char) : Stand (m.tagTokens lead) rest := by
  refine stand_append.2 ⟨stand_append.2 ⟨?_, m.stand_argumentTokens ⟨')', by simp, by simp⟩⟩, ?_⟩
  · show Stand ([signToken lead "@", wordToken [] m.tag.text] ++ [signToken [] "("]) _
    exact stand_append.2 ⟨htag.stands hlead (by simp; decide), stands_sign allBlank_nil (by simp),
      trivial⟩
  · exact ⟨stands_sign allBlank_nil (by simp), trivial⟩

theorem stand_parameterTokens {lead : List Char} (hlead : AllBlank lead) (p : Name × Name)
    {rest : List Char} (hrest : EndsWord rest) : Stand (parameterTokens lead p) rest :=
  ⟨p.1.stands hlead (by simp; decide), p.2.stands allBlank_space (by simpa using hrest), trivial⟩

theorem stand_headerTokens (m : Method) (rest : List Char) : Stand m.headerTokens rest := by
  refine stand_append.2 ⟨stand_append.2 ⟨?_, ?_⟩, ?_⟩
  · exact ⟨m.returnType.stands allBlank_newline (by simp; decide),
      m.name.stands allBlank_space (by simp; decide), stands_sign allBlank_nil (by simp), trivial⟩
  · exact stand_commaTokens
      (fun lead p rest hlead hrest => stand_parameterTokens hlead p hrest.endsWord)
      m.parameters ⟨')', by simp, by simp⟩
  · exact ⟨stands_sign allBlank_nil (by simp), stands_sign allBlank_space (by simp),
      stands_sign allBlank_nil (by simp), trivial⟩

theorem stand_tokens {lead : List Char} (hlead : AllBlank lead) (m : Method)
    (htag : IsPlainTag m.tag) (rest : List Char) : Stand (m.tokens lead) rest :=
  stand_append.2 ⟨m.stand_tagTokens hlead htag _, m.stand_headerTokens rest⟩

end Method

namespace Program

theorem stand_classTokens {lead : List Char} (hlead : AllBlank lead) (name : Name)
    (rest : List Char) : Stand (classTokens lead name) rest :=
  ⟨stands_word hlead (by decide) (by simp; decide),
    name.stands allBlank_space (by simp; decide), stands_sign allBlank_space (by simp), trivial⟩

theorem stand_openTokens {lead : List Char} (hlead : AllBlank lead) (tag : Option Name)
    (htag : ∀ a ∈ tag, IsPlainTag a) (name : Name) (rest : List Char) :
    Stand (openTokens lead tag name) rest := by
  cases tag with
  | none => exact stand_classTokens hlead name rest
  | some a =>
    exact stand_append.2 ⟨(htag a rfl).stands hlead (by simp [classTokens]; decide),
      stand_classTokens allBlank_newline name rest⟩

/-- Every token of a printed program is the one that is read at its place. -/
theorem stand_tokens {lead : List Char} (hlead : AllBlank lead) (p : Program)
    (htags : ∀ a ∈ p.tags, IsPlainTag a) (rest : List Char) : Stand (p.tokens lead) rest := by
  induction p generalizing lead rest with
  | done => trivial
  | type tag name members more ihm ihr =>
    simp only [tags, List.mem_append, Option.mem_toList] at htags
    refine stand_append.2 ⟨stand_append.2 ⟨?_, ?_⟩, ?_⟩
    · exact stand_openTokens hlead tag (fun a ha => htags a (.inl (.inl ha))) name _
    · exact ihm allBlank_newline (fun a ha => htags a (.inl (.inr ha))) _
    · exact ⟨stands_sign allBlank_newline (by simp),
        ihr allBlank_newline (fun a ha => htags a (.inr ha)) rest⟩
  | method m more ih =>
    simp only [tags, List.mem_cons] at htags
    exact stand_append.2 ⟨m.stand_tokens hlead (htags _ (.inl rfl)) _,
      ih allBlank_newline (fun a ha => htags a (.inr ha)) rest⟩

end Program

/-! ### The token list of a text -/

theorem mem_spell {ts : List Token} {rest : List Char} (h : Stand ts rest) :
    ∀ c ∈ spell ts, c = '\n' ∨ IsPrintable c := by
  induction ts with
  | nil => simp
  | cons t ts ih =>
    intro c hc
    simp only [spell_cons, Token.chars, List.mem_append] at hc
    rcases hc with (hc | hc) | hc
    · rcases h.1.lead c hc with rfl | rfl
      · exact .inr (by decide)
      · exact .inl rfl
    · exact .inr (h.1.printable c hc)
    · exact ih h.2 c hc

theorem Program.tokens?_text (p : Program) (htags : ∀ a ∈ p.tags, IsPlainTag a) :
    tokens? p.text.toList = some (p.tokens []) := by
  have hstand := p.stand_tokens allBlank_nil htags (p.trail [])
  have htrail : AllBlank (p.trail []) := by
    cases p with
    | done => exact allBlank_nil
    | type => exact allBlank_newline
    | method => exact allBlank_newline
  have htext := p.spell_tokens []
  rw [List.nil_append] at htext
  have hchars : ∀ c ∈ p.text.toList, c = '\n' ∨ IsPrintable c := by
    intro c hc
    rw [← htext, List.mem_append] at hc
    rcases hc with hc | hc
    · exact mem_spell hstand c hc
    · rcases htrail c hc with rfl | rfl
      · exact .inr (by decide)
      · exact .inl rfl
  have hnul : '\x00' ∉ p.text.toList := fun h => absurd (hchars _ h) (by decide)
  rw [tokens?, if_neg hnul, skipMark_of_printable hchars, ← htext, scan?_spell hstand htrail]
  rfl

end ServiceAtlas.Java
