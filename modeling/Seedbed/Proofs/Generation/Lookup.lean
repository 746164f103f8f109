import Seedbed.Generation.Evaluation
import Seedbed.Generator.Primitive
import Seedbed.Proofs.Definition.Agreement
import Seedbed.Proofs.Giving
import Seedbed.Proofs.Text.Split
import Seedbed.Proofs.Rule.Reserved

/-!
# What a text stands for that is looked up

A text that is looked up stands for a generator or for itself. Evaluation would also take a text
with a colon for itself when nothing is known under it, but validation refuses such a text, so in a
definition without errors only a text without a colon stands for itself (`Scene.Resolves`). With
`Rule.parse_eq_lookup_iff` this says that neither a reserved text nor a path with arguments comes
out as data (`lookup_resolves`).

What a generator is and what it is told is said without the evaluation: it stands in the registry
(`Registry.Has`), it is called by a text (`Called`), and it is run with the arguments and the day
(`Runs`).
-/

namespace Seedbed

/-! ## Generators that are called -/

namespace Registry

/-- A registry has a generator under a path: no generator in front of it has this path. -/
def Has (registry : Registry) (path : String) (generator : Generator) : Prop :=
  ∃ before after, registry.generators = before ++ generator :: after ∧ generator.id = path ∧
    ∀ other ∈ before, other.id ≠ path

/-- No generator of a registry has a path. -/
def Lacks (registry : Registry) (path : String) : Prop :=
  ∀ generator ∈ registry.generators, generator.id ≠ path

variable {registry : Registry} {path : String} {generator : Generator}

/-- The generator under a path is the one that is found. -/
theorem find?_eq_some_iff : registry.find? path = some generator ↔ registry.Has path generator := by
  simp only [find?, List.find?_eq_some_iff_append, Has, beq_iff_eq, Bool.not_eq_true',
    beq_eq_false_iff_ne]
  constructor
  · rintro ⟨hid, before, after, hsplit, hbefore⟩
    exact ⟨before, after, hsplit, hid, hbefore⟩
  · rintro ⟨before, after, hsplit, hid, hbefore⟩
    exact ⟨hid, before, after, hsplit, hbefore⟩

/-- Nothing is found under a path that no generator has. -/
theorem find?_eq_none_iff : registry.find? path = none ↔ registry.Lacks path := by
  simp only [find?, List.find?_eq_none, Lacks, beq_iff_eq, ne_eq]

/-- A registry has one generator under a path. -/
theorem Has.unique {other : Generator} (h : registry.Has path generator)
    (h' : registry.Has path other) : generator = other :=
  Option.some.inj ((find?_eq_some_iff.2 h).symm.trans (find?_eq_some_iff.2 h'))

/-- A registry that has a generator under a path does not lack the path. -/
theorem Has.not_lacks (h : registry.Has path generator) : ¬registry.Lacks path := by
  obtain ⟨before, after, hsplit, hid, -⟩ := h
  intro hlacks
  exact hlacks generator (by simp [hsplit]) hid

end Registry

/-- A text is a path and one or more arguments, joined by colons. -/
structure Called (text path : String) (arguments : List String) : Prop where
  joined : text.toList = [':'].intercalate ((path :: arguments).map String.toList)
  parts : ∀ part ∈ path :: arguments, ':' ∉ part.toList
  nonempty : arguments ≠ []

/-- A text that calls a path is cut into the path and the arguments. -/
theorem Called.splitOn_eq {text path : String} {arguments : List String}
    (h : Called text path arguments) :
    Text.splitOn ':' text.toList = (path :: arguments).map String.toList := by
  rw [h.joined, ← Text.joinWith_eq_intercalate]
  refine Text.splitOn_joinWith (by simp) fun piece hpiece => ?_
  obtain ⟨part, hpart, rfl⟩ := List.mem_map.1 hpiece
  exact h.parts part hpart

/-- A text calls one path, with one list of arguments. -/
theorem Called.unique {text path path' : String} {arguments arguments' : List String}
    (h : Called text path arguments) (h' : Called text path' arguments') :
    path = path' ∧ arguments = arguments' := by
  have hparts := h.splitOn_eq.symm.trans h'.splitOn_eq
  exact List.cons.inj (List.map_injective_iff.2 (fun _ _ => String.toList_injective) hparts)

/-- A text that calls a path has a colon. -/
theorem Called.colon_mem {text path : String} {arguments : List String}
    (h : Called text path arguments) : ':' ∈ text.toList := by
  by_contra hplain
  have hparts := (Text.splitOn_of_not_mem hplain).symm.trans h.splitOn_eq
  exact h.nonempty (List.map_eq_nil_iff.1 (List.cons.inj hparts).2.symm)

/-- A text with a colon calls what stands before the first one, with the parts behind it. -/
theorem called_of_splitFirst {text : String} {head rest : List Char}
    (h : Text.splitFirst ':' text.toList = some (head, rest)) :
    Called text (String.ofList head) ((Text.splitOn ':' rest).map String.ofList) := by
  obtain ⟨htext, hhead⟩ := Text.splitFirst_eq_some_iff.1 h
  have hpieces : ((String.ofList head :: (Text.splitOn ':' rest).map String.ofList).map
      String.toList) = Text.splitOn ':' text.toList := by
    rw [htext, Text.splitOn_append hhead]
    simp [Function.comp_def]
  refine ⟨?_, fun part hpart => ?_, by simpa using Text.splitOn_ne_nil ':' rest⟩
  · rw [hpieces, ← Text.joinWith_eq_intercalate, Text.joinWith_splitOn]
  · exact Text.not_mem_of_mem_splitOn (hpieces ▸ List.mem_map_of_mem hpart)

/-- Work runs a generator with a request: from every source it gives the value of the generator, or
fails with its failure, it leaves the source that the generator leaves, and it notes nothing. -/
structure Runs (making : Making Json) (generator : Generator) (request : Request) : Prop where
  value : ∀ {source value after}, generator.run request source = (.ok value, after) →
    making source = ⟨.ok value, after, []⟩
  failure : ∀ {source failure after}, generator.run request source = (.error failure, after) →
    making source = ⟨.error (.generator failure), after, []⟩

namespace Scene

/-! ## Texts that are looked up -/

/-- What evaluating a text does that is looked up: it runs the generator with the whole text as its
path, without arguments; else the generator with the part before the first colon, with the parts
behind it as arguments; or it gives a text without a colon and draws nothing. -/
inductive Resolves (scene : Scene) (text : String) (making : Making Json) : Prop
  | path {generator : Generator} (has : scene.registry.Has text generator)
      (runs : Runs making generator { arguments := [], today := scene.today })
  | head {generator : Generator} {path : String} {arguments : List String}
      (lacks : scene.registry.Lacks text) (called : Called text path arguments)
      (has : scene.registry.Has path generator)
      (runs : Runs making generator { arguments, today := scene.today })
  | verbatim (lacks : scene.registry.Lacks text) (plain : ':' ∉ text.toList)
      (gives : ∀ source, making source = ⟨.ok (.string text), source, []⟩)

variable {scene : Scene} {text : String}

/-- Evaluation runs a generator with the arguments and the day of the scene. -/
theorem runs_generate (generator : Generator) (arguments : List String) :
    Runs (scene.generate generator arguments) generator { arguments, today := scene.today } where
  value hrun := by simp only [generate, Work.mapError, Work.ofFallible, hrun, Except.mapError]
  failure hrun := by simp only [generate, Work.mapError, Work.ofFallible, hrun, Except.mapError]

/-- A text stands for a generator or for itself when it is known or what stands before its first
colon is. -/
theorem resolves_of_known (h : scene.registry.knows text = true ∨ ∀ head rest,
    Text.splitFirst ':' text.toList = some (head, rest) →
      scene.registry.knows (String.ofList head) = true) :
    scene.Resolves text (scene.lookup text) := by
  unfold lookup
  cases hfind : scene.registry.find? text with
  | some generator => exact .path (Registry.find?_eq_some_iff.1 hfind) (runs_generate generator [])
  | none =>
    have hlacks := Registry.find?_eq_none_iff.1 hfind
    have hunknown : ¬scene.registry.knows text = true := by simp [Registry.knows, hfind]
    cases hsplit : Text.splitFirst ':' text.toList with
    | none => exact .verbatim hlacks (Text.splitFirst_eq_none_iff.1 hsplit) fun _ => rfl
    | some parts =>
      obtain ⟨generator, hhead⟩ := Option.isSome_iff_exists.1
        (h.resolve_left hunknown parts.1 parts.2 hsplit)
      simp only [hhead]
      exact .head hlacks (called_of_splitFirst hsplit) (Registry.find?_eq_some_iff.1 hhead)
        (runs_generate generator _)

/-- A text that calls a generator, and is no path itself, runs this generator and no other. -/
theorem Resolves.runs {making : Making Json} {path : String} {arguments : List String}
    {generator : Generator} (h : scene.Resolves text making) (hlacks : scene.registry.Lacks text)
    (hcalled : Called text path arguments) (hhas : scene.registry.Has path generator) :
    Runs making generator { arguments, today := scene.today } := by
  cases h with
  | path has _ => exact absurd hlacks has.not_lacks
  | head _ called has runs =>
    obtain ⟨rfl, rfl⟩ := called.unique hcalled
    obtain rfl := has.unique hhas
    exact runs
  | verbatim _ plain _ => exact absurd hcalled.colon_mem plain

/-- A text without a colon, which is no path, gives itself. -/
theorem Resolves.gives {making : Making Json} (h : scene.Resolves text making)
    (hlacks : scene.registry.Lacks text) (hplain : ':' ∉ text.toList) (source : Random.Source) :
    making source = ⟨.ok (.string text), source, []⟩ := by
  cases h with
  | path has _ => exact absurd hlacks has.not_lacks
  | head _ called _ _ => exact absurd called.colon_mem hplain
  | verbatim _ _ gives => exact gives source

end Scene

/-- **What is looked up is what it looks like.** A text is looked up exactly when it is not
reserved, and then as it stands. In a definition without errors each scalar that is looked up, at
any depth, is such a text; evaluating it runs the generator with that path, or the one with the part
before the first colon and the other parts as its arguments, or it gives the text itself, which then
has no colon, and draws nothing. -/
theorem lookup_resolves :
    (∀ text looked, Rule.parse text = .ok (.lookup looked) ↔
      looked = text ∧ ¬Rule.Reserved text.toList) ∧
    ∀ (registry : Registry) value definition, (validate registry.knows value).isOk = true →
      Definition.compile value = .ok definition → ∀ path text,
      (path, Rule.lookup text) ∈ definition.scalars → ¬Rule.Reserved text.toList ∧
        ∀ (scene : Scene) row, scene.registry = registry →
          scene.Resolves text (scene.scalar path row (.lookup text)) := by
  refine ⟨fun _ _ => Rule.parse_eq_lookup_iff, fun registry value definition hok hcompile path text
    hmem => ?_⟩
  obtain ⟨column, hcolumn, hscalar⟩ := List.mem_flatMap.1 hmem
  obtain ⟨written, hparsed⟩ := Definition.compile_scalar_parsed hcompile hcolumn hscalar
  obtain ⟨rfl, hplain⟩ := Rule.parse_eq_lookup_iff.1 hparsed
  refine ⟨hplain, ?_⟩
  rintro scene row rfl
  rw [Scene.scalar]
  exact Scene.resolves_of_known
    (Validation.lookup_known scene.registry.knows hok hcompile hcolumn hscalar)

/-- A definition with notes, each with a code from a generator and a kind that is plain text. -/
def notes : Json :=
  .object [("table", .string "notes"), ("count", .integer 1),
    ("columns", .object [("notes", .object [("type", .string "array"), ("count", .integer 2),
      ("items", .object [("type", .string "object"), ("fields", .object [
        ("code", .string "string.alpha:5"), ("kind", .string "on hold")])])])])]

/-- The codes of `notes` are five letters that the generator draws, and the kinds are what is
written. -/
theorem lookup_resolves_notes :
    let registry := Registry.empty.insert Primitive.alpha
    let codePath := "$.columns.notes.items.properties.code"
    let kindPath := "$.columns.notes.items.properties.kind"
    (validate registry.knows notes).isOk = true ∧
    ∃ definition, Definition.compile notes = .ok definition ∧
      ((codePath, .lookup "string.alpha:5") ∈ definition.scalars ∧
        ¬Rule.Reserved "string.alpha:5".toList ∧
        ∀ (scene : Scene) row source, scene.registry = registry →
          let drawn := Random.Draw.times 5 (Random.Draw.charOf Primitive.letters) source
          scene.scalar codePath row (.lookup "string.alpha:5") source =
            ⟨.ok (.string (String.ofList drawn.1)), drawn.2, []⟩) ∧
      (kindPath, .lookup "on hold") ∈ definition.scalars ∧
        ¬Rule.Reserved "on hold".toList ∧
        ∀ (scene : Scene) row source, scene.registry = registry →
          scene.scalar kindPath row (.lookup "on hold") source =
            ⟨.ok (.string "on hold"), source, []⟩ := by
  intro registry codePath kindPath
  let definition : Compiled := { table := "notes", count := .fixed 1, columns := [("notes",
    .array (.object [("code", .scalar (.lookup "string.alpha:5")),
      ("kind", .scalar (.lookup "on hold"))]) (.fixed 2))] }
  have hok : (validate registry.knows notes).isOk = true := by decide +kernel
  have hcompile : Definition.compile notes = .ok definition := rfl
  have hresolves := lookup_resolves.2 registry notes definition hok hcompile
  have hcode : (codePath, Rule.lookup "string.alpha:5") ∈ definition.scalars :=
    List.mem_cons_self ..
  have hkind : (kindPath, Rule.lookup "on hold") ∈ definition.scalars :=
    List.mem_cons_of_mem _ (List.mem_cons_self ..)
  obtain ⟨hcodePlain, hcodeResolves⟩ := hresolves _ _ hcode
  obtain ⟨hkindPlain, hkindResolves⟩ := hresolves _ _ hkind
  refine ⟨hok, definition, hcompile, ⟨hcode, hcodePlain, fun scene row source hregistry => ?_⟩,
    hkind, hkindPlain, fun scene row source hregistry => ?_⟩
  · have hlacks : scene.registry.Lacks "string.alpha:5" := by
      rw [hregistry]
      exact Registry.find?_eq_none_iff.1 rfl
    have hhas : scene.registry.Has "string.alpha" Primitive.alpha := by
      rw [hregistry]
      exact Registry.find?_eq_some_iff.1 rfl
    have hcalled : Called "string.alpha:5" "string.alpha" ["5"] :=
      ⟨by decide, by decide, by decide⟩
    intro drawn
    have hlength : Primitive.lengthOf { arguments := ["5"], today := scene.today } = 5 := rfl
    have hrun : Primitive.alpha.run { arguments := ["5"], today := scene.today } source =
        (.ok (.string (String.ofList drawn.1)), drawn.2) := by
      rw [Primitive.alpha, Primitive.overAlphabet_run, hlength]
    exact ((hcodeResolves scene row hregistry).runs hlacks hcalled hhas).value hrun
  · have hlacks : scene.registry.Lacks "on hold" := by
      rw [hregistry]
      exact Registry.find?_eq_none_iff.1 rfl
    exact (hkindResolves scene row hregistry).gives hlacks (by decide) source

end Seedbed
