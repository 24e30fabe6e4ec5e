import Questionnaire.Proofs.Keyed
import Questionnaire.Proofs.Signature.Build
import Questionnaire.Registry

namespace Questionnaire

/-!
# The targets that are there from the start

Their signatures are built from declarations, in which types are texts, so what holds of everything
that is built holds of them.

* `Rerun.build_declaration`, `Lindenmayer.build_declaration` — their signatures are built.
* `Registry.builtin_wellFormed` — every target that is found has a signature that can be relied on.
-/

namespace Rerun

/-- How the question is declared. -/
def declaration : List Signature.Step :=
  [.doc doc, .param "rerun" "bool" (some (.bool true))]

/-- The signature is the one that is built from its declaration. -/
theorem build_declaration : Signature.build "rerun" declaration = .ok signature := rfl

/-- The signature is well-formed, since it has been built. -/
theorem signature_wellFormed : signature.WellFormed :=
  (Signature.build_wellFormed build_declaration).1

end Rerun

namespace Lindenmayer

open Signature (checkParam_required checkParam_optional)

/-- How a drawing is declared. -/
def declaration : List Signature.Step :=
  [.doc doc,
    .param "axiom" "str" none,
    .param "rules" "str" none,
    .param "depth" "Annotated[int, ValueRange(1, ∞)]" none,
    .param "angle" "float" none,
    .param "forward" "str" (some (.str "F")),
    .param "step_length" "float" (some (.float 10)),
    .param "initial_angle" "float" (some (.float 0)),
    .param "compression_factor" "Union[Literal['auto'], float]" (some (.str "auto")),
    .param "fg_color" "Union[Tuple[int, int, int], Callable]"
      (some (.seq [.int 255, .int 255, .int 255])),
    .param "bg_color" "Tuple[int, int, int]" (some (.seq [.int 0, .int 0, .int 0])),
    .param "canvas_size" "Tuple[int, int]" (some (.seq [.int 800, .int 800])),
    .param "output" "Optional[str]" (some .none),
    .param "_max_symbols" "int" (some (.int 2000000))]

/-- The types of a drawing are read from their texts, and its defaults are of these types. -/
theorem build_declaration : Signature.build "lindenmayer" declaration = .ok signature := by
  apply Signature.build_of_checked (by decide) rfl
  · have hnames : (Signature.declared declaration).map (·.name) = ["axiom", "rules", "depth",
        "angle", "forward", "step_length", "initial_angle", "compression_factor", "fg_color",
        "bg_color", "canvas_size", "output", "_max_symbols"] := rfl
    rw [hnames]
    decide
  · -- one parameter after the other, in the order in which they are declared
    refine .cons (checkParam_required rfl (by decide)) ?_
    refine .cons (checkParam_required rfl (by decide)) ?_
    refine .cons (checkParam_required rfl (by decide)) ?_
    refine .cons (checkParam_required rfl (by decide)) ?_
    refine .cons (checkParam_optional rfl rfl) ?_
    refine .cons (checkParam_optional rfl rfl) ?_
    refine .cons (checkParam_optional rfl rfl) ?_
    refine .cons (checkParam_optional rfl rfl) ?_
    refine .cons (checkParam_optional rfl rfl) ?_
    refine .cons (checkParam_optional rfl rfl) ?_
    refine .cons (checkParam_optional rfl rfl) ?_
    refine .cons (checkParam_optional rfl rfl) ?_
    exact .cons (checkParam_optional rfl rfl) .nil

/-- The signature is well-formed, since it has been built. -/
theorem signature_wellFormed : signature.WellFormed :=
  (Signature.build_wellFormed build_declaration).1

end Lindenmayer

namespace Registry

/-- Behind a target that has just been registered, the others are found as before. -/
theorem get?_register (r : Registry) (t : Target) (name : String) :
    (r.register t).get? name = if name = t.name then some t else r.get? name :=
  Keyed.lookup_put t.name name t r.targets

/-- There are two targets from the start. -/
theorem get?_builtin {chance : Nat → Lindenmayer.Rgb} {name : String} {t : Target}
    (h : (builtin chance).get? name = some t) :
    t = Rerun.target ∨ t = Lindenmayer.target chance := by
  rw [builtin, get?_register, get?_register] at h
  split at h
  · exact Or.inl (Option.some.inj h).symm
  · split at h
    · exact Or.inr (Option.some.inj h).symm
    · cases h

/-- All targets of the registry have well-formed signatures. -/
theorem builtin_wellFormed {chance : Nat → Lindenmayer.Rgb} {name : String} {t : Target}
    (h : (builtin chance).get? name = some t) : t.signature.WellFormed := by
  rcases get?_builtin h with rfl | rfl
  · exact Rerun.signature_wellFormed
  · exact Lindenmayer.signature_wellFormed

end Registry

end Questionnaire
