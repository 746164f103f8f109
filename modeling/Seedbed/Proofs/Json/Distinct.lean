import Mathlib.Tactic.SplitIfs
import Seedbed.Json.Reader
import Seedbed.Proofs.Fields

/-!
# Values whose objects have each name once

`Json.Distinct` says that no object inside a value has a name twice, which is what makes the members
of an object a mapping. Every value that a text stands for is such a value (`parse_distinct`): the
reader puts a repeated name where its first occurrence stands, so each container that is still open
holds distinct values (`Reader.Kept`), and a step keeps it so (`step_kept`).
-/

namespace Seedbed

namespace Json

/-! ## Distinct names -/

mutual

/-- No object inside the value has a name twice. -/
def Distinct : Json → Prop
  | array items => DistinctItems items
  | object members => (Fields.names members).Nodup ∧ DistinctMembers members
  | _ => True

/-- `Distinct` of the items of an array. -/
def DistinctItems : List Json → Prop
  | [] => True
  | item :: rest => Distinct item ∧ DistinctItems rest

/-- `Distinct` of the values of members. -/
def DistinctMembers : List (String × Json) → Prop
  | [] => True
  | (_, value) :: rest => Distinct value ∧ DistinctMembers rest

end

/-- `DistinctItems` in the natural per-element form. -/
theorem distinctItems_iff {items : List Json} :
    DistinctItems items ↔ ∀ item ∈ items, item.Distinct := by
  induction items with
  | nil => simp [DistinctItems]
  | cons item rest ih => simp [DistinctItems, ih]

/-- `DistinctMembers` in the natural per-element form. -/
theorem distinctMembers_iff {members : Fields Json} :
    DistinctMembers members ↔ ∀ member ∈ members, member.2.Distinct := by
  induction members with
  | nil => simp [DistinctMembers]
  | cons member rest ih => obtain ⟨name, value⟩ := member; simp [DistinctMembers, ih]

@[simp] theorem distinct_array {items : List Json} :
    (array items).Distinct ↔ ∀ item ∈ items, item.Distinct := by
  rw [Distinct, distinctItems_iff]

@[simp] theorem distinct_object {members : Fields Json} :
    (object members).Distinct ↔
      (Fields.names members).Nodup ∧ ∀ member ∈ members, member.2.Distinct := by
  rw [Distinct, distinctMembers_iff]

/-- A number that was read holds no object. -/
theorem distinct_of_numeral {n : Numeral} {value : Json} (h : n.value = some value) :
    value.Distinct := by
  unfold Numeral.value at h
  split at h
  · obtain ⟨x, -, rfl⟩ := Option.map_eq_some_iff.1 h
    trivial
  · split at h
    · cases h; trivial
    · split at h <;> cases h <;> trivial

/-! ## Readers -/

/-- A style that joins distinct members to an object with distinct names, and whose embedded texts
stand for distinct values. -/
structure Style.Sound (style : Style) : Prop where
  join : ∀ members : Fields Json, (∀ member ∈ members, member.2.Distinct) →
    (object (style.join members)).Distinct
  embedded : ∀ read, style.embedded = some read → ∀ text value, read text = .ok value →
    value.Distinct

/-- What an open container holds is distinct. -/
def Frame.Kept : Frame → Prop
  | .array items => ∀ item ∈ items, item.Distinct
  | .object members => ∀ member ∈ members, member.2.Distinct
  | .member members _ => ∀ member ∈ members, member.2.Distinct
  | .embedding => True
  | .embedded value => value.Distinct

/-- The value that a mode holds is distinct. -/
def Mode.Kept : Mode → Prop
  | .word _ awaited => awaited.Distinct
  | .ended read => read.Distinct
  | _ => True

/-- All that a reader holds is distinct. -/
structure Reader.Kept (r : Reader) : Prop where
  frames : ∀ frame ∈ r.frames, frame.Kept
  mode : r.mode.Kept

/-- A step leads to a reader that holds distinct values, or stops, behind a distinct value. -/
def ReaderStep.Kept : ReaderStep → Prop
  | .ok r => r.Kept
  | .error (.surplus value) => value.Distinct
  | .error _ => True

namespace Reader

variable {style : Style} {r : Reader}

/-- A reader with another mode holds what it held. -/
theorem Kept.withMode (h : r.Kept) {mode : Mode} (hm : mode.Kept) : { r with mode }.Kept :=
  ⟨h.frames, hm⟩

/-- A reader with a frame on top holds what it held and the frame. -/
theorem Kept.cons {frame : Frame} {frames : List Frame} {mode : Mode} (hf : frame.Kept)
    (hfs : ∀ frame ∈ frames, frame.Kept) (hm : mode.Kept) :
    Reader.Kept { frames := frame :: frames, mode } :=
  ⟨List.forall_mem_cons.2 ⟨hf, hfs⟩, hm⟩

/-- Accepting a distinct value keeps what a reader holds distinct. -/
theorem kept_accept (hs : style.Sound) (h : r.Kept) {value : Json} (hv : value.Distinct)
    (taken : Nat) : (r.accept style value taken).Kept := by
  obtain ⟨frames, mode⟩ := r
  have hfs := h.frames
  unfold accept
  split
  · exact h.withMode hv
  · next items rest he =>
    obtain rfl : frames = _ := he
    obtain ⟨hf, hrest⟩ := List.forall_mem_cons.1 hfs
    exact .cons (List.forall_mem_cons.2 ⟨hv, hf⟩) hrest trivial
  · next members key rest he =>
    obtain rfl : frames = _ := he
    obtain ⟨hf, hrest⟩ := List.forall_mem_cons.1 hfs
    exact .cons (List.forall_mem_cons.2 ⟨hv, hf⟩) hrest trivial
  · next rest he =>
    obtain rfl : frames = _ := he
    obtain ⟨-, hrest⟩ := List.forall_mem_cons.1 hfs
    split
    · next read text hread =>
      split
      · next hok => exact .cons (hs.embedded read hread _ _ hok) hrest trivial
      · trivial
    · trivial
  · exact h.withMode trivial
  · exact h.withMode trivial

/-- Opening a container keeps what a reader holds distinct. -/
theorem kept_openFrame (h : r.Kept) {frame : Frame} (hf : frame.Kept) {mode : Mode}
    (hm : mode.Kept) : (r.openFrame frame mode).Kept := by
  unfold openFrame
  split
  · exact .cons hf h.frames hm
  · trivial

/-- Closing a container keeps what a reader holds distinct. -/
theorem kept_close (hs : style.Sound) (h : r.Kept) : (r.close style).Kept := by
  obtain ⟨frames, mode⟩ := r
  have hfs := h.frames
  unfold close
  split
  · next items rest he =>
    obtain rfl : frames = _ := he
    obtain ⟨hf, hrest⟩ := List.forall_mem_cons.1 hfs
    have hv : (array items.reverse).Distinct :=
      distinct_array.2 fun item hi => hf item (List.mem_reverse.1 hi)
    exact kept_accept (r := ⟨rest, mode⟩) hs ⟨hrest, h.mode⟩ hv 1
  · next members rest he =>
    obtain rfl : frames = _ := he
    obtain ⟨hf, hrest⟩ := List.forall_mem_cons.1 hfs
    have hv := hs.join members.reverse fun member hm => hf member (List.mem_reverse.1 hm)
    exact kept_accept (r := ⟨rest, mode⟩) hs ⟨hrest, h.mode⟩ hv 1
  · next value rest he =>
    obtain rfl : frames = _ := he
    obtain ⟨hf, hrest⟩ := List.forall_mem_cons.1 hfs
    exact kept_accept (r := ⟨rest, mode⟩) hs ⟨hrest, h.mode⟩ hf 1
  · exact h

/-- The start of a number keeps what a reader holds distinct. -/
theorem kept_startNumber (h : r.Kept) (c : Char) : (r.startNumber c).Kept := by
  unfold startNumber
  split
  · exact h.withMode trivial
  · split
    · exact h.withMode trivial
    · trivial

/-- The start of a value keeps what a reader holds distinct. -/
theorem kept_startValue (hs : style.Sound) (h : r.Kept) (place : ValuePlace) (c : Char) :
    (r.startValue style place c).Kept := by
  unfold startValue
  split_ifs
  · exact h
  · exact h.withMode trivial
  · exact kept_openFrame h (show Frame.Kept (.array []) by simp [Frame.Kept]) trivial
  · exact kept_openFrame h (show Frame.Kept (.object []) by simp [Frame.Kept]) trivial
  · exact h.withMode trivial
  · exact h.withMode trivial
  · exact h.withMode trivial
  · exact kept_startNumber h c
  · split
    · exact kept_close hs h
    · trivial
    · trivial
  · trivial

/-- The start of an embedded text keeps what a reader holds distinct. -/
theorem kept_startEmbedded (hs : style.Sound) (h : r.Kept) (c : Char) :
    (r.startEmbedded style c).Kept := by
  unfold startEmbedded
  split_ifs
  · trivial
  · trivial
  · exact kept_startValue hs h .embedding c

/-- The start of a name keeps what a reader holds distinct. -/
theorem kept_startKey (hs : style.Sound) (h : r.Kept) (first : Bool) (c : Char) :
    (r.startKey style first c).Kept := by
  unfold startKey
  split_ifs
  · exact h
  · exact h.withMode trivial
  · exact kept_close hs h
  · trivial
  · trivial

/-- The colon behind a name keeps what a reader holds distinct. -/
theorem kept_awaitColon (h : r.Kept) (key : String) (c : Char) :
    (r.awaitColon style key c).Kept := by
  obtain ⟨frames, mode⟩ := r
  have hfs := h.frames
  unfold awaitColon
  split_ifs
  · exact h
  · split
    · next members rest he =>
      obtain rfl : frames = _ := he
      obtain ⟨hf, hrest⟩ := List.forall_mem_cons.1 hfs
      split
      · exact .cons (show Frame.Kept .embedding from trivial) hrest trivial
      · exact .cons (show Frame.Kept (.member members key) from hf) hrest trivial
    · trivial
  · trivial

/-- A character behind a value in a container keeps what a reader holds distinct. -/
theorem kept_afterValue (hs : style.Sound) (h : r.Kept) (c : Char) :
    (r.afterValue style c).Kept := by
  unfold afterValue
  split
  · exact h
  · split <;> split_ifs <;>
      first
      | exact h.withMode trivial
      | exact kept_close hs h
      | trivial

/-- A character behind the document keeps what a reader holds distinct. -/
theorem kept_afterDocument (h : r.Kept) {value : Json} (hv : value.Distinct) (c : Char) :
    (r.afterDocument value c).Kept := by
  unfold afterDocument
  split
  · exact h
  · exact hv

/-- A character behind a value, inside a container or not, keeps what a reader holds distinct. -/
theorem kept_settled (hs : style.Sound) (h : r.Kept) (c : Char) : (settled style c r).Kept := by
  unfold settled
  split
  · next value hm => exact kept_afterDocument h (by have := h.mode; rwa [hm] at this) c
  · exact kept_afterValue hs h c

/-- A character inside a number keeps what a reader holds distinct. -/
theorem kept_inNumber (hs : style.Sound) (h : r.Kept) (n : Numeral) (c : Char) :
    (r.inNumber style n c).Kept := by
  unfold inNumber
  split
  · exact h.withMode trivial
  · trivial
  · trivial
  · split
    · trivial
    · next value hv =>
      have ha := kept_accept hs h (distinct_of_numeral hv) 0
      cases hr : r.accept style value 0 with
      | ok r' => rw [hr] at ha; exact kept_settled hs ha c
      | error stop => rw [hr] at ha; exact ha

/-- The end of an escaped code keeps what a reader holds distinct. -/
theorem kept_endCode (h : r.Kept) (isKey : Bool) (chars : List Char) (code : Nat)
    (high : Option Nat) (taken : Nat) : (r.endCode isKey chars code high taken).Kept := by
  unfold endCode
  split <;> split_ifs <;> first | exact h.withMode trivial | trivial

/-- A character inside a string keeps what a reader holds distinct. -/
theorem kept_inString (hs : style.Sound) (h : r.Kept) (isKey : Bool) (chars : List Char)
    (place : EscapePlace) (c : Char) : (r.inString style isKey chars place c).Kept := by
  unfold inString
  split
  · dsimp only
    split_ifs
    · exact h.withMode trivial
    · exact kept_accept hs h (show Distinct (.string _) from trivial) 1
    · exact h.withMode trivial
    · trivial
    · exact h.withMode trivial
  · split
    · exact h.withMode trivial
    · split
      · exact h.withMode trivial
      · trivial
  · dsimp only
    split_ifs
    · exact kept_endCode h isKey chars _ _ _
    · trivial
    · exact h.withMode trivial
  · split
    · exact h.withMode trivial
    · trivial
  · split
    · exact h.withMode trivial
    · trivial

/-- A character inside a word keeps what a reader holds distinct. -/
theorem kept_inWord (hs : style.Sound) (h : r.Kept) (rest : List Char) {value : Json}
    (hv : value.Distinct) (c : Char) : (r.inWord style rest value c).Kept := by
  unfold inWord
  split
  · trivial
  · split_ifs
    · trivial
    · exact kept_accept hs h hv 1
    · exact h.withMode hv

/-- A step from a reader that holds distinct values leads to one that does. -/
theorem step_kept (hs : style.Sound) (h : r.Kept) (c : Char) : (r.step style c).Kept := by
  have hm := h.mode
  unfold step
  split
  · exact kept_startEmbedded hs h c
  · exact kept_startValue hs h _ c
  · exact kept_startKey hs h _ c
  · exact kept_awaitColon h _ c
  · exact kept_afterValue hs h c
  · next rest value he => rw [he] at hm; exact kept_inWord hs h rest hm c
  · exact kept_inNumber hs h _ c
  · exact kept_inString hs h _ _ _ c
  · next value he => rw [he] at hm; exact kept_afterDocument h hm c

/-- The value of a text that ends is distinct. -/
theorem finish_distinct (hs : style.Sound) (h : r.Kept) {value : Json}
    (hf : r.finish style = .ok value) : value.Distinct := by
  have hm := h.mode
  unfold finish at hf
  dsimp only at hf
  split at hf
  · next he => cases hf; rw [he] at hm; exact hm
  all_goals try cases hf
  · split_ifs at hf
    split at hf
    · cases hf
    · next number hn =>
      have ha := kept_accept hs h (distinct_of_numeral hn) 0
      cases hr : r.accept style number 0 with
      | error stop => rw [hr] at hf; cases hf
      | ok r' =>
        rw [hr] at hf ha
        have hm' := ha.mode
        simp only [bind, Except.bind] at hf
        split at hf
        · next he => cases hf; rw [he] at hm'; exact hm'
        · cases hf

/-- The value that a run ends with is distinct. -/
theorem run_distinct (hs : style.Sound) (h : r.Kept) {offset : Nat} {cs : List Char} {value : Json}
    {rest : Option Nat} (hr : r.run style offset cs = .ok (value, rest)) : value.Distinct := by
  induction cs generalizing r offset with
  | nil =>
    simp only [run] at hr
    cases hf : r.finish style with
    | error stop => rw [hf] at hr; cases hr
    | ok v => rw [hf] at hr; cases hr; exact finish_distinct hs h hf
  | cons c cs ih =>
    have hk := step_kept hs h c
    simp only [run] at hr
    split at hr
    · next r' he => rw [he] at hk; exact ih hk hr
    · next v he => rw [he] at hk; cases hr; exact hk
    · cases hr

end Reader

/-! ## Texts -/

/-- The value at the front of a text is distinct. -/
theorem readFront_distinct {style : Style} (hs : style.Sound) {text : String} {front : Front}
    (h : readFront style text = .ok front) : front.value.Distinct := by
  unfold readFront at h
  dsimp only at h
  split at h
  · cases h
  · next value surplus hr =>
    cases h
    have hstart : Reader.Kept {} := ⟨List.forall_mem_nil _, trivial⟩
    exact Reader.run_distinct hs hstart hr

/-- The value that is all of a text is distinct. -/
theorem readFront_alone_distinct {style : Style} (hs : style.Sound) {text : String} {value : Json}
    (h : readFront style text >>= Front.alone = .ok value) : value.Distinct := by
  cases hf : readFront style text with
  | error e => rw [hf] at h; cases h
  | ok front =>
    rw [hf] at h
    simp only [bind, Except.bind, Front.alone] at h
    split at h
    · cases h
    · cases h; exact readFront_distinct hs hf

/-- The standard styles join members by name, and what they embed is read in a standard style. -/
theorem Style.standard_sound (depth : Nat) : (Style.standard depth).Sound := by
  have hjoin : ∀ members : Fields Json, (∀ member ∈ members, member.2.Distinct) →
      (object (Fields.ofMembers members)).Distinct := by
    intro members hms
    rw [distinct_object]
    refine ⟨Fields.nodup_names_ofMembers members, fun field hf => ?_⟩
    obtain ⟨member, hm, he⟩ := Fields.mem_ofMembers hf
    exact he ▸ hms member hm
  induction depth with
  | zero => exact ⟨hjoin, fun read h => by cases h⟩
  | succ depth ih =>
    refine ⟨hjoin, fun read h text value hr => ?_⟩
    cases h
    exact readFront_alone_distinct ih hr

/-- The value of a text has each name of an object once. -/
theorem parse_distinct {text : String} {value : Json} (h : parse text = .ok value) :
    value.Distinct :=
  readFront_alone_distinct (Style.standard_sound _) h

end Json

end Seedbed
