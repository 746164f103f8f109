import Mathlib.Data.List.Infix
import Seedbed.Redaction
import Seedbed.Proofs.Text.Split

/-!
# What a password leaves in a redacted connection

The parts of a connection string are cut at the first question mark and the first slash before the
password is looked for. So a password is masked whatever it holds except for these two marks: all
passwords without them leave the same record (`redact_connection_of_plain`). A password with one of
them is cut in two, and what stands behind the cut is shown (`redact_eq_iff_plain`).
-/

namespace Seedbed.Redaction

/-! ## Cuts -/

section

variable {sep c : Char} {cs front back : List Char}

/-- A text is cut at the first separator. -/
theorem cut_append (h : sep ∉ front) : cut sep (front ++ sep :: back) = (front, some back) := by
  rw [cut, Text.splitFirst_eq_some_iff.2 ⟨rfl, h⟩]

/-- A text that starts with the separator has nothing in front of it. -/
theorem cut_cons_self (sep : Char) (back : List Char) : cut sep (sep :: back) = ([], some back) :=
  cut_append List.not_mem_nil

/-- A text in front of the first separator is part of what stands before the cut. -/
theorem cut_prepend (cs : List Char) (h : sep ∉ front) :
    cut sep (front ++ cs) = (front ++ (cut sep cs).1, (cut sep cs).2) := by
  cases hcs : Text.splitFirst sep cs with
  | none =>
    have hnot : sep ∉ front ++ cs := by simp [h, Text.splitFirst_eq_none_iff.1 hcs]
    simp only [cut, hcs, Text.splitFirst_eq_none_iff.2 hnot]
  | some parts =>
    obtain ⟨before, after⟩ := parts
    obtain ⟨rfl, hbefore⟩ := Text.splitFirst_eq_some_iff.1 hcs
    have hnot : sep ∉ front ++ before := by simp [h, hbefore]
    rw [← List.append_assoc, cut_append hnot, cut_append hbefore]

/-- A cut loses nothing. -/
theorem cut_parts (sep : Char) (cs : List Char) :
    (cut sep cs).1 ++ marked sep (cut sep cs).2 = cs := by
  cases hcs : Text.splitFirst sep cs with
  | none => simp [cut, hcs, marked]
  | some parts =>
    obtain ⟨before, after⟩ := parts
    obtain ⟨rfl, -⟩ := Text.splitFirst_eq_some_iff.1 hcs
    simp [cut, hcs, marked]

/-- What stands before a cut holds no separator. -/
theorem not_mem_cut (sep : Char) (cs : List Char) : sep ∉ (cut sep cs).1 := by
  cases hcs : Text.splitFirst sep cs with
  | none => simpa [cut, hcs] using Text.splitFirst_eq_none_iff.1 hcs
  | some parts =>
    obtain ⟨before, after⟩ := parts
    simpa [cut, hcs] using (Text.splitFirst_eq_some_iff.1 hcs).2

/-- What stands before a cut stands in the text. -/
theorem mem_of_mem_cut (h : c ∈ (cut sep cs).1) : c ∈ cs := by
  rw [← cut_parts sep cs]
  exact List.mem_append_left _ h

/-- What stands behind a cut stands in the text. -/
theorem mem_of_mem_cut_snd (hcut : (cut sep cs).2 = some back) (h : c ∈ back) : c ∈ cs := by
  rw [← cut_parts sep cs, hcut]
  exact List.mem_append_right _ (List.mem_cons_of_mem _ h)

@[simp] theorem marked_none : marked sep none = [] := rfl

@[simp] theorem marked_some : marked sep (some cs) = sep :: cs := rfl

/-- A text without the separator is cut from what the separator introduces. -/
theorem cut_marked (h : sep ∉ front) (back? : Option (List Char)) :
    cut sep (front ++ marked sep back?) = (front, back?) := by
  cases back? with
  | none => rw [marked_none, List.append_nil, cut, Text.splitFirst_eq_none_iff.2 h]
  | some back => exact cut_append h

/-- A part that is not empty is recorded as it stands. -/
theorem part_of_ne_nil (h : cs ≠ []) : part cs = some (String.ofList cs) := by
  simp [part, h]

/-- A part that is recorded as a text is this text. -/
theorem eq_of_part {text : List Char} (h : part cs = some (String.ofList text)) : cs = text := by
  unfold part at h
  split at h
  · cases h
  · exact String.ofList_injective (Option.some.inj h)

end

/-! ## The scheme -/

/-- The scheme ends at the first mark: none begins inside it. -/
theorem redact_of_scheme {scheme : List Char} (h : ¬"://".toList <:+: scheme) (rest : List Char) :
    redact (String.ofList (scheme ++ "://".toList ++ rest)) = redactLocation scheme rest := by
  have hfirst (front back : List Char)
      (he : scheme ++ "://".toList ++ rest = front ++ "://".toList ++ back) :
      scheme.length ≤ front.length := by
    by_contra hlt
    have hfront : front <+: scheme ++ ("://".toList ++ rest) :=
      ⟨"://".toList ++ back, by rw [← List.append_assoc, ← List.append_assoc, he]⟩
    obtain ⟨inside, hscheme⟩ : front <+: scheme :=
      List.prefix_of_prefix_length_le hfront (List.prefix_append ..) (by omega)
    rw [← hscheme, List.append_assoc, List.append_assoc, List.append_assoc,
      List.append_cancel_left_eq] at he
    -- the mark begins one, two, or at least three characters before the end of the scheme
    match inside, hscheme, he with
    | [], hscheme, _ => simp [← hscheme] at hlt
    | [_], _, he => simp at he
    | [_, _], _, he => simp at he
    | a :: b :: c :: inside, hscheme, he =>
      obtain ⟨rfl, rfl, rfl, -⟩ : a = ':' ∧ b = '/' ∧ c = '/' ∧ _ := by simpa using he
      exact h ⟨front, inside, by simp [← hscheme]⟩
  have htext : (String.ofList (scheme ++ "://".toList ++ rest)).toList =
      scheme ++ "://".toList ++ rest := String.toList_ofList ..
  rw [redact, htext, Text.splitFirstMark_append (by decide) hfirst]

/-! ## Connection strings with a password -/

/-- The parts of a connection string around its password, none of which holds a mark that would end
it. -/
structure Login where
  scheme : List Char
  user : List Char
  host : List Char
  /-- What stands behind the host: nothing, or a text from a slash or a question mark on. -/
  tail : List Char
  scheme_plain : ¬"://".toList <:+: scheme
  user_plain : ':' ∉ user ∧ '/' ∉ user ∧ '?' ∉ user ∧ '@' ∉ user
  host_plain : '@' ∉ host ∧ '/' ∉ host ∧ '?' ∉ host
  tail_starts : tail = [] ∨ tail.head? = some '/' ∨ tail.head? = some '?'
  tail_plain : '@' ∉ tail

/-- A password without the marks that end the authority of a connection string. -/
def Plain (password : List Char) : Prop :=
  '/' ∉ password ∧ '?' ∉ password

instance (password : List Char) : Decidable (Plain password) :=
  inferInstanceAs (Decidable (_ ∧ _))

namespace Login

variable (login : Login)

/-- What stands behind the scheme. -/
def rest (password : List Char) : List Char :=
  login.user ++ ':' :: password ++ '@' :: login.host ++ login.tail

/-- The connection string with a password. -/
def connection (password : List Char) : String :=
  String.ofList (login.scheme ++ "://".toList ++ login.rest password)

/-- The record of the connection with its password masked. -/
def masked : RedactedConnection :=
  let (path, query) := cut '?' login.tail
  let database := (cut '/' path).2
  { scheme := some (String.ofList login.scheme)
    user := some (String.ofList login.user)
    host := part login.host
    database := database.bind part
    redacted := String.ofList (login.scheme ++ "://".toList ++
      (login.user ++ ':' :: mask ++ ['@']) ++ login.host ++ marked '/' database ++
      marked '?' (query.map redactQuery)) }

/-- A connection is redacted by its scheme and what follows it. -/
theorem redact_connection (password : List Char) :
    redact (login.connection password) = redactLocation login.scheme (login.rest password) :=
  redact_of_scheme login.scheme_plain _

/-- The tail begins with its first mark. -/
theorem cut_path : (cut '/' (cut '?' login.tail).1).1 = [] := by
  rcases htail : login.tail with _ | ⟨c, cs⟩
  · rfl
  · rcases login.tail_starts with h | h | h
    · simp [htail] at h
    · obtain rfl : c = '/' := by simpa [htail] using h
      rw [show '/' :: cs = ['/'] ++ cs from rfl, cut_prepend cs (by decide)]
      exact congrArg Prod.fst (cut_cons_self '/' _)
    · obtain rfl : c = '?' := by simpa [htail] using h
      exact congrArg (fun parts => (cut '/' parts.1).1) (cut_cons_self '?' cs)

/-- **A password that is plain is masked whatever it is.** -/
theorem redact_connection_of_plain {password : List Char} (h : Plain password) :
    redact (login.connection password) = login.masked := by
  obtain ⟨hcolon, hslash, hquery, -⟩ := login.user_plain
  obtain ⟨hat, hslash', hquery'⟩ := login.host_plain
  obtain ⟨hplain, hplain'⟩ := h
  have hfront (sep : Char) (h : sep = '?' ∨ sep = '/') :
      sep ∉ login.user ++ ':' :: password ++ '@' :: login.host := by
    rcases h with rfl | rfl <;> simp [*]
  have hlocation := cut_prepend login.tail (hfront '?' (.inl rfl))
  have hauthority := cut_prepend (cut '?' login.tail).1 (hfront '/' (.inr rfl))
  have hcredentials : Text.splitLast '@' (login.user ++ ':' :: password ++ '@' :: login.host) =
      some (login.user ++ ':' :: password, login.host) := Text.splitLast_append hat _
  have huser : Text.splitFirst ':' (login.user ++ ':' :: password) = some (login.user, password) :=
    Text.splitFirst_eq_some_iff.2 ⟨rfl, hcolon⟩
  rw [redact_connection, redactLocation, rest, hlocation]
  simp only [hauthority, cut_path, List.append_nil, hcredentials, redactCredentials, userOf, huser,
    Option.map_some, masked]

/-- The tail is what stands behind the host in the masked record, up to its query. -/
theorem marked_path : marked '/' (cut '/' (cut '?' login.tail).1).2 = (cut '?' login.tail).1 := by
  simpa [login.cut_path] using cut_parts '/' (cut '?' login.tail).1

/-- A question mark in the password begins a query, which is shown. -/
theorem redact_connection_ne_of_query {password : List Char} (h : '?' ∈ password)
    (htail : '?' ∉ login.tail) : redact (login.connection password) ≠ login.masked := by
  obtain ⟨front, back, rfl, hfront⟩ := List.eq_append_cons_of_mem h
  have hcut : cut '?' (login.rest (front ++ '?' :: back)) =
      (login.user ++ ':' :: front, some (back ++ '@' :: login.host ++ login.tail)) := by
    rw [show login.rest (front ++ '?' :: back) = (login.user ++ ':' :: front) ++
      '?' :: (back ++ '@' :: login.host ++ login.tail) by simp [rest]]
    exact cut_append (by simp [hfront, login.user_plain])
  have huncut : cut '?' login.tail = (login.tail, none) := by
    rw [cut, Text.splitFirst_eq_none_iff.2 htail]
  have hpath : marked '/' (cut '/' login.tail).2 = login.tail := by
    simpa [huncut] using login.marked_path
  intro heq
  simp only [redact_connection, redactLocation, hcut, masked, huncut, hpath, Option.map_some,
    Option.map_none, marked_some, marked_none, RedactedConnection.mk.injEq] at heq
  obtain ⟨-, -, -, -, hredacted⟩ := heq
  have htext := String.ofList_injective hredacted
  simp only [List.append_assoc, List.append_cancel_left_eq] at htext
  have hmem := congrArg ('?' ∈ ·) htext
  simp [htail, login.user_plain, login.host_plain, mask] at hmem

/-- A slash in the password begins the name of a database, which is shown. -/
theorem redact_connection_ne_of_slash {password : List Char} (hslash : '/' ∈ password)
    (hquery : '?' ∉ password) : redact (login.connection password) ≠ login.masked := by
  obtain ⟨front, back, rfl, hfront⟩ := List.eq_append_cons_of_mem hslash
  have hlocation : cut '?' (login.rest (front ++ '/' :: back)) =
      (login.user ++ ':' :: (front ++ '/' :: back) ++ '@' :: login.host ++
        (cut '?' login.tail).1, (cut '?' login.tail).2) :=
    cut_prepend _ (by simp [login.user_plain, login.host_plain]; simpa using hquery)
  have hcut : cut '/' (login.user ++ ':' :: (front ++ '/' :: back) ++ '@' :: login.host ++
      (cut '?' login.tail).1) = (login.user ++ ':' :: front,
        some (back ++ '@' :: login.host ++ (cut '?' login.tail).1)) := by
    rw [show login.user ++ ':' :: (front ++ '/' :: back) ++ '@' :: login.host ++
      (cut '?' login.tail).1 = (login.user ++ ':' :: front) ++
        '/' :: (back ++ '@' :: login.host ++ (cut '?' login.tail).1) by simp]
    exact cut_append (by simp [hfront, login.user_plain])
  -- the database that is shown holds the mark in front of the host, and no part of the tail does
  intro heq
  simp only [redact_connection, redactLocation, hlocation, hcut, masked, Option.bind_some,
    RedactedConnection.mk.injEq] at heq
  obtain ⟨-, -, -, hdatabase, -⟩ := heq
  obtain ⟨database, hcutTail, hpart⟩ := Option.bind_eq_some_iff.1 (hdatabase.symm.trans
    (part_of_ne_nil (by simp)))
  have hmem : '@' ∈ database := by simp [eq_of_part hpart]
  exact login.tail_plain (mem_of_mem_cut (mem_of_mem_cut_snd hcutTail hmem))

end Login

/-- **A password leaves no trace exactly when it is plain.** Of two connection strings that differ
in their passwords, where the first password is plain, the records are the same exactly when the
second one is plain as well. A question mark is left out when the tail has one too: the two together
make one query, in which a parameter may mask the end of the password. -/
theorem redact_eq_iff_plain (login : Login) {password other : List Char} (h : Plain password)
    (hother : '?' ∈ other → '?' ∉ login.tail) :
    redact (login.connection password) = redact (login.connection other) ↔ Plain other := by
  rw [login.redact_connection_of_plain h]
  constructor
  · intro heq
    have hquery : '?' ∉ other := fun hmem =>
      login.redact_connection_ne_of_query hmem (hother hmem) heq.symm
    have hslash : '/' ∉ other := fun hmem =>
      login.redact_connection_ne_of_slash hmem hquery heq.symm
    exact ⟨hslash, hquery⟩
  · intro hplain
    exact (login.redact_connection_of_plain hplain).symm

/-- A login with a port and a database. -/
def seeder : Login where
  scheme := "postgres".toList
  user := "seeder".toList
  host := "db.local:5432".toList
  tail := "/app".toList
  scheme_plain := by decide
  user_plain := by decide
  host_plain := by decide
  tail_starts := by decide
  tail_plain := by decide

/-- Two passwords with marks of other parts leave one record. -/
theorem redact_eq_of_colon_and_at :
    let password := "s3cret".toList
    let other := "p@ss:w&rd=#".toList
    Plain password ∧ ('?' ∈ other → '?' ∉ seeder.tail) ∧
      (redact (seeder.connection password) = redact (seeder.connection other) ↔ Plain other) :=
  ⟨by decide, by decide, redact_eq_iff_plain seeder (by decide) (by decide)⟩

/-- **A password with a slash is shown.** What stands before the slash is taken for the host, what
stands behind it for the name of the database, and nothing is masked. So a password has a trace. -/
theorem password_shown_of_slash :
    redact (seeder.connection "s3/cret".toList) =
        { scheme := some "postgres", user := none, host := some "seeder:s3",
          database := some "cret@db.local:5432/app",
          redacted := "postgres://seeder:s3/cret@db.local:5432/app" } ∧
      ¬∀ (login : Login) (password other : List Char),
        redact (login.connection password) = redact (login.connection other) := by
  have hshown : redact (seeder.connection "s3/cret".toList) =
      { scheme := some "postgres", user := none, host := some "seeder:s3",
        database := some "cret@db.local:5432/app",
        redacted := "postgres://seeder:s3/cret@db.local:5432/app" } := by
    rfl
  refine ⟨hshown, fun h => ?_⟩
  have hslash := h seeder "s3cret".toList "s3/cret".toList
  rw [hshown, seeder.redact_connection_of_plain (by decide)] at hslash
  cases congrArg RedactedConnection.user hslash

end Seedbed.Redaction
