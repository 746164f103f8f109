import Mathlib.Data.List.Chain
import Mathlib.Data.List.Infix
import Seedbed.Rule.Parser
import Seedbed.Proofs.Rule.Fit

/-!
# A text is cut at its leftmost placeholders

`Template.Cut` says what it means to cut a text at its placeholders from left to right: no
placeholder begins in a literal, neither in the last one nor in one that stands in front of a
placeholder. `pieces` makes this cut and there is no other one (`cut_iff`). All else that holds of
the pieces of a text follows from it: literals are kept apart by placeholders, and what looks like
the beginning of a placeholder in a literal is none (`Exact`).
-/

namespace Seedbed

namespace Template

/-! ## Placeholders in a text -/

/-- A placeholder with a key stands at the start of a text, and `rest` behind it. -/
structure Opens (text key rest : List Char) : Prop where
  eq : text = opening ++ key ++ '\x7d' :: rest
  ne : key ≠ []
  closed : '\x7d' ∉ key

/-- No placeholder begins in `front` when `back` stands behind it. -/
def Free (front back : List Char) : Prop :=
  ∀ before inside, front = before ++ inside → inside ≠ [] →
    ∀ key rest, ¬Opens (inside ++ back) key rest

/-- A text is cut at its placeholders, from left to right. -/
inductive Cut : List Char → List Piece → Prop
  | last {text : List Char} (free : Free text []) : Cut text (literalPiece text)
  | next {front text key rest : List Char} {pieces : List Piece} (free : Free front text)
      (placeholder : Opens text key rest) (tail : Cut rest pieces) :
      Cut (front ++ text) (literalPiece front ++ .placeholder key :: pieces)

variable {text front middle back key rest literal : List Char} {ps qs : List Piece}

/-- No placeholder begins in an empty text, whatever stands behind it. -/
theorem free_nil (back : List Char) : Free [] back := by
  intro before inside h hne
  exact absurd (List.append_eq_nil_iff.1 h.symm).2 hne

/-- No placeholder begins in a text exactly when none begins in either of its parts. -/
theorem free_append_iff :
    Free (front ++ middle) back ↔ Free front (middle ++ back) ∧ Free middle back := by
  constructor
  · intro h
    refine ⟨fun before inside he hne key rest hopens => ?_,
      fun before inside he hne key rest hopens => ?_⟩
    · have hopens' : Opens (inside ++ middle ++ back) key rest := by simpa using hopens
      exact h before (inside ++ middle) (by simp [he]) (by simp [hne]) key rest hopens'
    · exact h (front ++ before) inside (by simp [he]) hne key rest hopens
  · rintro ⟨hfront, hmiddle⟩ before inside he hne key rest hopens
    rcases List.append_eq_append_iff.1 he with ⟨later, rfl, hlater⟩ | ⟨later, rfl, rfl⟩
    · exact hmiddle later inside hlater hne key rest hopens
    · by_cases hl : later = []
      · subst hl
        exact hmiddle [] middle rfl (by simpa using hne) key rest (by simpa using hopens)
      · exact hfront before later rfl hl key rest (by simpa using hopens)

/-- A character that does not open a placeholder begins none. -/
theorem free_singleton {c : Char} (h : ¬opening <+: c :: back) : Free [c] back := by
  intro before inside he hne key rest hopens
  obtain ⟨rfl, rfl⟩ : before = [] ∧ inside = [c] := by
    rcases List.append_eq_singleton_iff.1 he.symm with h | h
    · exact h
    · exact absurd h.2 hne
  exact h ⟨key ++ '\x7d' :: rest, by simpa using hopens.eq.symm⟩

/-- A text without a closing brace has no placeholder. -/
theorem free_of_not_mem (h : '\x7d' ∉ text) : Free text [] := by
  rintro before inside rfl - key rest hopens
  refine h (List.mem_append_right _ ?_)
  rw [← List.append_nil inside, hopens.eq]
  simp

/-- What opens in a free text is closed at once or not at all. -/
theorem Free.opening_closed (h : Free front back) {before after : List Char}
    (he : front = before ++ opening ++ after) :
    (after ++ back).head? = some '\x7d' ∨ '\x7d' ∉ after ++ back := by
  by_cases hmem : '\x7d' ∈ after ++ back
  · obtain ⟨key, rest, hsplit, hkey⟩ := List.eq_append_cons_of_mem hmem
    refine .inl ?_
    cases key with
    | nil => simp [hsplit]
    | cons k key =>
      have hopens : Opens (opening ++ after ++ back) (k :: key) rest :=
        ⟨by rw [List.append_assoc, hsplit, List.append_assoc], by simp, hkey⟩
      exact absurd hopens (h before (opening ++ after) (by simp [he]) (by simp [opening]) _ _)
  · exact .inr hmem

/-! ## The walk over a text -/

/-- A key goes on up to a closing brace. -/
theorem scan_key {c : Char} (h : c ≠ '\x7d') (literal key cs : List Char) :
    scan literal (some key) (c :: cs) = scan literal (some (c :: key)) cs := by
  rw [scan]
  · exact fun _ => h
  · exact fun _ _ _ => h

/-- A key that is not closed is part of a literal. -/
theorem scan_unclosed (literal key : List Char) (h : '\x7d' ∉ text) :
    scan literal (some key) text =
      literalPiece (literal.reverse ++ opening ++ key.reverse ++ text) := by
  induction text generalizing key with
  | nil => simp [scan]
  | cons c cs ih =>
    obtain ⟨hc, hcs⟩ : '\x7d' ≠ c ∧ '\x7d' ∉ cs := by simpa using h
    rw [scan_key hc.symm, ih _ hcs]
    simp

/-- A key that is closed is that of a placeholder. -/
theorem scan_closed (literal : List Char) {before : List Char} (hne : before ≠ [] ∨ key ≠ [])
    (h : '\x7d' ∉ key) :
    scan literal (some before) (key ++ '\x7d' :: rest) =
      literalPiece literal.reverse ++
        .placeholder (before.reverse ++ key) :: scan [] none rest := by
  induction key generalizing before with
  | nil =>
    cases before with
    | nil => simp at hne
    | cons b before => simp [scan]
  | cons c key ih =>
    obtain ⟨hc, hkey⟩ : '\x7d' ≠ c ∧ '\x7d' ∉ key := by simpa using h
    rw [List.cons_append, scan_key hc.symm, ih (.inl (by simp)) hkey]
    simp

/-- A key that is closed at once belongs to no placeholder. -/
theorem free_closed_at_once (rest : List Char) : Free (opening ++ ['\x7d']) rest := by
  rintro before inside he hne key behind ⟨hopens, hkey, hclosed⟩
  obtain ⟨k, key, rfl⟩ := List.exists_cons_of_ne_nil hkey
  have hk : k ≠ '\x7d' := fun h => hclosed (by simp [h])
  rcases before with _ | ⟨a, _ | ⟨b, _ | ⟨c, before⟩⟩⟩
  · obtain rfl : inside = ['$', '\x7b', '\x7d'] := he.symm
    simp [opening, hk.symm] at hopens
  · obtain rfl : inside = ['\x7b', '\x7d'] := (List.cons.inj he).2.symm
    simp [opening] at hopens
  · obtain rfl : inside = ['\x7d'] := (List.cons.inj (List.cons.inj he).2).2.symm
    simp [opening] at hopens
  · have hempty : inside = [] := by
      have hlength := congrArg List.length he
      simp only [opening, List.length_append, List.length_cons, List.length_nil] at hlength
      exact List.length_eq_zero_iff.1 (by omega)
    exact hne hempty

/-- The walk cuts what it has collected and what is left of the text, when no placeholder begins in
the part that it has collected. -/
theorem cut_scan (literal text : List Char) (h : Free literal.reverse text) :
    Cut (literal.reverse ++ text) (scan literal none text) := by
  match text with
  | [] =>
    rw [scan, List.append_nil]
    exact .last h
  | c :: cs =>
    by_cases hopening : opening <+: c :: cs
    · obtain ⟨after, he⟩ := hopening
      have hlength : after.length < cs.length + 1 := by
        have hcount := congrArg List.length he
        simp only [opening, List.length_append, List.length_cons, List.length_nil] at hcount
        omega
      rw [← he] at h ⊢
      show Cut _ (scan literal (some []) after)
      -- what begins here is closed behind a key, closed at once, or not closed at all
      by_cases hclosed : '\x7d' ∈ after
      · obtain ⟨key, rest, rfl, hkey⟩ := List.eq_append_cons_of_mem hclosed
        have hrest : rest.length < cs.length + 1 := by
          simp only [List.length_append, List.length_cons] at hlength
          omega
        cases key with
        | nil =>
          -- no key: the walk goes on behind the brace, and what it passed joins the literal
          have hfree : Free ('\x7d' :: '\x7b' :: '$' :: literal).reverse rest := by
            have hboth : Free (literal.reverse ++ (opening ++ ['\x7d'])) rest :=
              free_append_iff.2 ⟨by simpa using h, free_closed_at_once rest⟩
            simpa [opening] using hboth
          have hcut := cut_scan ('\x7d' :: '\x7b' :: '$' :: literal) rest hfree
          simpa [scan, opening] using hcut
        | cons k key =>
          have hopens : Opens (opening ++ (k :: key ++ '\x7d' :: rest)) (k :: key) rest :=
            ⟨by simp, by simp, hkey⟩
          rw [scan_closed literal (.inr (by simp)) hkey]
          exact .next h hopens (cut_scan [] rest (free_nil rest))
      · have hfree : Free (literal.reverse ++ (opening ++ after)) [] := by
          have hafter : '\x7d' ∉ opening ++ after := by simpa [opening] using hclosed
          exact free_append_iff.2 ⟨by simpa using h, free_of_not_mem hafter⟩
        rw [scan_unclosed literal [] hclosed]
        simpa using Cut.last hfree
    · have hscan : scan literal none (c :: cs) = scan (c :: literal) none cs := by
        rw [scan]
        rintro cs rfl rfl
        exact hopening ⟨cs, rfl⟩
      have hfree : Free (c :: literal).reverse cs := by
        rw [List.reverse_cons]
        exact free_append_iff.2 ⟨h, free_singleton hopening⟩
      rw [hscan, show literal.reverse ++ c :: cs = (c :: literal).reverse ++ cs by simp]
      exact cut_scan (c :: literal) cs hfree
termination_by text.length
decreasing_by all_goals
  simp only [List.length_cons]
  omega

/-- The pieces of a text are a cut of it. -/
theorem cut_pieces (text : List Char) : Cut text (pieces text) :=
  cut_scan [] text (free_nil text)

/-! ## There is one cut -/

/-- A cut is one literal without placeholders, or begins with what is in front of the first one. -/
theorem Cut.cases_on_first (h : Cut text ps) :
    (Free text [] ∧ ps = literalPiece text) ∨
      ∃ front later key rest tail, text = front ++ later ∧ Free front later ∧ Opens later key rest ∧
        Cut rest tail ∧ ps = literalPiece front ++ .placeholder key :: tail := by
  cases h with
  | last free => exact .inl ⟨free, rfl⟩
  | next free placeholder tail => exact .inr ⟨_, _, _, _, _, rfl, free, placeholder, tail, rfl⟩

/-- A placeholder has one key. -/
theorem Opens.unique {key' rest' : List Char} (h : Opens text key rest)
    (h' : Opens text key' rest') : key = key' ∧ rest = rest' := by
  have he : key ++ '\x7d' :: rest = key' ++ '\x7d' :: rest' := by
    simpa [opening] using h.eq.symm.trans h'.eq
  have hcut : Text.splitFirst '\x7d' (key ++ '\x7d' :: rest) = some (key, rest) :=
    Text.splitFirst_eq_some_iff.2 ⟨rfl, h.closed⟩
  rw [Text.splitFirst_eq_some_iff.2 ⟨he, h'.closed⟩] at hcut
  simpa [eq_comm] using hcut

/-- A text with a placeholder is not free. -/
theorem Opens.not_free (h : Opens text key rest) (front : List Char) :
    ¬Free (front ++ text) [] := by
  intro hfree
  have hne : text ≠ [] := by simp [h.eq, opening]
  exact hfree front text rfl hne key rest (by simpa using h)

/-- No placeholder stands further to the left than the first one. -/
theorem Opens.front_eq {front' text' key' rest' : List Char} (h : Opens text key rest)
    (h' : Opens text' key' rest') (hfree : Free front text) (hfree' : Free front' text')
    (he : front ++ text = front' ++ text') : front = front' ∧ text = text' := by
  rcases List.append_eq_append_iff.1 he with ⟨later, rfl, rfl⟩ | ⟨later, rfl, rfl⟩
  · by_cases hl : later = []
    · simp [hl]
    · exact absurd h (hfree' front later rfl hl key rest)
  · by_cases hl : later = []
    · simp [hl]
    · exact absurd h' (hfree front' later rfl hl key' rest')

/-- **A text has one cut at its placeholders**, its pieces. -/
theorem Cut.unique (h : Cut text ps) (h' : Cut text qs) : ps = qs := by
  induction h generalizing qs with
  | last free =>
    rcases h'.cases_on_first with ⟨-, rfl⟩ | ⟨front, later, key, rest, tail, rfl, -, hopens, -, -⟩
    · rfl
    · exact absurd free (hopens.not_free front)
  | next free placeholder tail ih =>
    rcases h'.cases_on_first with
      ⟨hnone, -⟩ | ⟨front, later, key, rest, others, he, hfree, hopens, hothers, rfl⟩
    · exact absurd hnone (placeholder.not_free _)
    · obtain ⟨rfl, rfl⟩ := placeholder.front_eq hopens free hfree he
      obtain ⟨rfl, rfl⟩ := placeholder.unique hopens
      rw [ih hothers]

/-- The pieces of a text are its only cut. -/
theorem cut_iff : Cut text ps ↔ ps = pieces text :=
  ⟨fun h => h.unique (cut_pieces text), fun h => h ▸ cut_pieces text⟩

/-! ## What follows for the pieces -/

/-- Whether a piece is a literal. -/
def Piece.IsLiteral : Piece → Prop
  | .literal _ => True
  | .placeholder _ => False

/-- Pieces hold the whole of a text, each of them as its placeholders make it. -/
structure Exact (text : List Char) (pieces : List Piece) : Prop where
  /-- The pieces are written as the text. -/
  written : write pieces = text
  /-- A key is not empty and holds no closing brace. -/
  keys : ∀ key, .placeholder key ∈ pieces → key ≠ [] ∧ '\x7d' ∉ key
  /-- A literal is not empty. -/
  literals : ∀ literal, .literal literal ∈ pieces → literal ≠ []
  /-- No two literals stand side by side. -/
  apart : pieces.IsChain fun first second => ¬(first.IsLiteral ∧ second.IsLiteral)
  /-- What opens in a literal is closed at once, or nowhere behind it in the text. -/
  unopened : ∀ before literal after, pieces = before ++ .literal literal :: after →
    ∀ front back, literal = front ++ opening ++ back →
      (back ++ write after).head? = some '\x7d' ∨ '\x7d' ∉ back ++ write after

/-- A literal that is not empty is a piece, and an empty one is none. -/
theorem mem_literalPiece_iff {piece : Piece} :
    piece ∈ literalPiece text ↔ piece = .literal text ∧ text ≠ [] := by
  unfold literalPiece
  split
  · next h => simp_all
  · next h => simp_all

/-- A literal stands alone among the pieces of a text without placeholders. -/
theorem literalPiece_eq {before after : List Piece}
    (h : literalPiece text = before ++ .literal literal :: after) :
    literal = text ∧ after = [] := by
  unfold literalPiece at h
  split at h
  · simp at h
  · obtain ⟨-, he⟩ | ⟨-, he⟩ := List.append_eq_singleton_iff.1 h.symm
    · obtain ⟨hpiece, hafter⟩ := List.cons.inj he
      exact ⟨Piece.literal.inj hpiece, hafter⟩
    · simp at he

/-- A literal of pieces with a placeholder stands in front of the first one or behind it. -/
theorem literalPiece_append_eq {before after : List Piece} {placed : Piece}
    (hplaced : ¬placed.IsLiteral)
    (h : literalPiece front ++ placed :: ps = before ++ .literal literal :: after) :
    (literal = front ∧ after = placed :: ps) ∨
      ∃ later, ps = later ++ .literal literal :: after := by
  have hbehind {before : List Piece} (he : placed :: ps = before ++ .literal literal :: after) :
      ∃ later, ps = later ++ .literal literal :: after := by
    cases before with
    | nil =>
      obtain ⟨rfl, -⟩ := List.cons.inj he
      exact absurd trivial hplaced
    | cons _ before => exact ⟨before, (List.cons.inj he).2⟩
  unfold literalPiece at h
  split at h
  · exact .inr (hbehind h)
  · cases before with
    | nil =>
      obtain ⟨hliteral, hafter⟩ := List.cons.inj h
      exact .inl ⟨(Piece.literal.inj hliteral).symm, hafter.symm⟩
    | cons _ before => exact .inr (hbehind (List.cons.inj h).2)

namespace Cut

/-- The pieces of a cut write the text. -/
theorem written (h : Cut text ps) : write ps = text := by
  rw [cut_iff.1 h]
  exact write_pieces text

/-- The key of a placeholder is not empty and has no closing mark. -/
theorem keys (h : Cut text ps) : ∀ key, .placeholder key ∈ ps → key ≠ [] ∧ '\x7d' ∉ key := by
  induction h with
  | last free => simp [mem_literalPiece_iff]
  | next free placeholder tail ih =>
    intro key hmem
    simp only [List.mem_append, mem_literalPiece_iff, List.mem_cons, reduceCtorEq, false_and,
      false_or, Piece.placeholder.injEq] at hmem
    rcases hmem with rfl | hmem
    · exact ⟨placeholder.ne, placeholder.closed⟩
    · exact ih key hmem

/-- A literal of a cut is not empty. -/
theorem literals (h : Cut text ps) : ∀ literal, .literal literal ∈ ps → literal ≠ [] := by
  induction h with
  | last free =>
    rintro literal hmem rfl
    simp_all [mem_literalPiece_iff]
  | next free placeholder tail ih =>
    intro literal hmem
    simp only [List.mem_append, mem_literalPiece_iff, List.mem_cons, reduceCtorEq, false_or,
      Piece.literal.injEq] at hmem
    rcases hmem with ⟨rfl, hne⟩ | hmem
    · exact hne
    · exact ih literal hmem

/-- Two literals of a cut do not follow one another. -/
theorem apart (h : Cut text ps) :
    ps.IsChain fun first second => ¬(first.IsLiteral ∧ second.IsLiteral) := by
  induction h with
  | last free =>
    unfold literalPiece
    split <;> simp
  | next free placeholder tail ih =>
    rename_i front text key rest pieces
    have hbehind : (Piece.placeholder key :: pieces).IsChain
        fun first second => ¬(first.IsLiteral ∧ second.IsLiteral) :=
      List.isChain_cons.2 ⟨fun _ _ h => h.1, ih⟩
    unfold literalPiece
    split
    · exact hbehind
    · exact List.isChain_cons_cons.2 ⟨fun h => h.2, hbehind⟩

/-- Behind an opening mark in a literal, a closing mark follows at once or not at all. -/
theorem unopened (h : Cut text ps) : ∀ before literal after,
    ps = before ++ .literal literal :: after → ∀ front back, literal = front ++ opening ++ back →
      (back ++ write after).head? = some '\x7d' ∨ '\x7d' ∉ back ++ write after := by
  induction h with
  | last free =>
    intro before literal after he front back hliteral
    obtain ⟨rfl, rfl⟩ := literalPiece_eq he
    exact free.opening_closed hliteral
  | @next front text key rest ps free placeholder tail ih =>
    intro before literal after he front' back hliteral
    rcases literalPiece_append_eq id he with ⟨rfl, rfl⟩ | ⟨later, hlater⟩
    · have hwrite : write (.placeholder key :: ps) = text := by
        rw [placeholder.eq, ← tail.written]
        simp [write, Piece.write]
      rw [hwrite]
      exact free.opening_closed hliteral
    · exact ih later literal after hlater front' back hliteral

/-- The pieces of a cut are exact. -/
theorem exact (h : Cut text ps) : Exact text ps :=
  { written := h.written, keys := h.keys, literals := h.literals, apart := h.apart,
    unopened := h.unopened }

end Cut

/-- A text has an opening when the opening mark stands in it. -/
theorem hasOpening_iff : hasOpening text = true ↔ opening <:+: text := by
  induction text with
  | nil => simp [hasOpening, opening]
  | cons c cs ih => rw [hasOpening, Bool.or_eq_true, List.isPrefixOf_iff_prefix, ih,
      List.infix_cons_iff]

/-- A key without a closing brace is one piece. -/
theorem pieces_of_not_mem (h : '\x7d' ∉ text) : pieces text = literalPiece text :=
  (cut_iff.1 (.last (free_of_not_mem h))).symm

end Template

/-! ## The segments of a template -/

/-- A segment without what its key means. -/
def Segment.piece : Segment → Template.Piece
  | literal text => .literal text.toList
  | placeholder key _ => .placeholder key.toList
  | columnOnly key _ => .placeholder key.toList

namespace Rule

/-- The segments of a text as a template. -/
def segments (text : List Char) : List Segment :=
  (Template.pieces text).map segmentOf

/-- The segment of a piece is the piece with its key parsed. -/
theorem piece_segmentOf (piece : Template.Piece) : (segmentOf piece).piece = piece := by
  cases piece with
  | literal text => simp [segmentOf, Segment.piece]
  | placeholder key =>
    simp only [segmentOf]
    split <;> simp [Segment.piece]

/-- The segments of a text are its pieces with their keys parsed. -/
theorem pieces_segments (text : List Char) :
    (segments text).map Segment.piece = Template.pieces text := by
  simp [segments, Function.comp_def, piece_segmentOf]

/-- A text is parsed to a template exactly when it holds the mark that begins a placeholder. -/
theorem parseChars_eq_template_iff {text : List Char} {parsed : List Segment} :
    parseChars text = .ok (.template parsed) ↔
      Template.opening <:+: text ∧ parsed = segments text := by
  rw [← Template.hasOpening_iff, parseChars]
  split
  · next h => simp [h, segments, eq_comm]
  · next h =>
    have hplain : parsePlain text ≠ .ok (.template parsed) := fun hok =>
      parsePlain_ne_template hok parsed rfl
    simp [h, hplain]

/-- The key of a placeholder is parsed as any other text is. -/
theorem parseKey_eq_parseChars {key : List Char} (h : '\x7d' ∉ key) :
    parseKey key = parseChars key := by
  unfold parseKey parseChars
  split
  · next hopening =>
    have hne : key ≠ [] := by
      rintro rfl
      simp [Template.hasOpening] at hopening
    simp [Template.pieces_of_not_mem h, Template.literalPiece, hne, segmentOf]
  · rfl

/-- The segment of a key: the rule that the key is parsed to, or why it is none. -/
def segmentOfKey (key : String) : Segment :=
  match parse key with
  | .ok rule => .placeholder key rule
  | .error e => .columnOnly key e

/-- The segment of a key has this key. -/
theorem key?_segmentOfKey (key : String) : (segmentOfKey key).key? = some key := by
  unfold segmentOfKey
  split <;> rfl

/-- The key of a segment is parsed as a text of its own. -/
theorem eq_segmentOfKey {text : List Char} {segment : Segment} {key : String}
    (h : segment ∈ segments text) (hkey : segment.key? = some key) :
    segment = segmentOfKey key := by
  obtain ⟨piece, hmem, rfl⟩ := List.mem_map.1 h
  cases piece with
  | literal literal => cases hkey
  | placeholder cs =>
    obtain ⟨-, hclosed⟩ := (Template.cut_pieces text).keys cs hmem
    have hparsed : parse (String.ofList cs) = parseKey cs := by
      rw [parse, String.toList_ofList, parseKey_eq_parseChars hclosed]
    have hsegment : segmentOf (.placeholder cs) = segmentOfKey (String.ofList cs) := by
      cases hrule : parseKey cs with
      | ok rule => simp only [segmentOf, segmentOfKey, hparsed, hrule]
      | error e => simp only [segmentOf, segmentOfKey, hparsed, hrule]
    rw [hsegment, key?_segmentOfKey] at hkey
    cases hkey
    exact hsegment

/-- **The segments of a text are its cut**: they are written as the text, their literals are kept
apart by the leftmost placeholders, and no placeholder is left in a literal. There is no other cut
of the text, and a text that holds the mark of a placeholder is parsed to these segments. -/
theorem segments_exact (text : List Char) :
    Template.Exact text ((segments text).map Segment.piece) ∧
      (∀ pieces, Template.Cut text pieces ↔ pieces = (segments text).map Segment.piece) ∧
      ∀ parsed, parseChars text = .ok (.template parsed) ↔
        Template.opening <:+: text ∧ parsed = segments text := by
  rw [pieces_segments]
  exact ⟨(Template.cut_pieces text).exact, fun _ => Template.cut_iff,
    fun _ => parseChars_eq_template_iff⟩

/-- A key that is closed at once, one with an opening mark in it, and one that is not closed. -/
example :
    (segments "$\x7b\x7d$\x7by$\x7bz\x7d$\x7bw".toList).map Segment.piece =
      [.literal "$\x7b\x7d".toList, .placeholder "y$\x7bz".toList,
        .literal "$\x7bw".toList] := by
  decide

end Rule

end Seedbed
