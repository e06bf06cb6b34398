import Mathlib.Tactic.Lemma
import Mathlib.Tactic.SplitIfs
import ScriptAssist.Service.Dispatch

/-!
# Compositions

What a composed action comes to is what its parts come to, one after the other. Every operation is
composed of a few steps. So a property that composition keeps is a property of all operations as
soon as those steps have it.
-/

namespace ScriptAssist

/-! ### Results of composed actions -/

namespace Action

variable {σ α β : Type}

lemma result_bind (action : Action σ α) (next : α → Action σ β) (state : σ) :
    (action >>= next).result state =
      match action.result state with
      | (.ok a, state) => (next a).result state
      | (.error failure, state) => (.error failure, state) := by
  simp only [result, bind, ExceptT.bind, ExceptT.run, ExceptT.mk, StateT.bind, StateT.run]
  cases action state with
  | mk outcome state => cases outcome <;> rfl

lemma ok_of_result_bind {action : Action σ α} {next : α → Action σ β} {state after : σ} {b : β}
    (h : (action >>= next).result state = (.ok b, after)) :
    ∃ a between, action.result state = (.ok a, between) ∧
      (next a).result between = (.ok b, after) := by
  rw [result_bind] at h
  cases hresult : action.result state with
  | mk outcome between =>
    rw [hresult] at h
    cases outcome with
    | error failure => exact absurd h (by simp)
    | ok a => exact ⟨a, between, rfl, h⟩

lemma result_tryCatch (action : Action σ α) (handler : Failure → Action σ α) (state : σ) :
    (tryCatch action handler).result state =
      match action.result state with
      | (.ok a, state) => (.ok a, state)
      | (.error failure, state) => (handler failure).result state := by
  simp only [result, tryCatch, tryCatchThe, MonadExceptOf.tryCatch, ExceptT.tryCatch, ExceptT.run,
    ExceptT.mk, StateT.bind, StateT.run, bind]
  cases action state with
  | mk outcome state => cases outcome <;> rfl

lemma result_finallyDo (action : Action σ α) (cleanup : σ → σ) (state : σ) :
    (action.finallyDo cleanup).result state =
      ((action.result state).1, cleanup (action.result state).2) :=
  rfl

end Action

namespace Session

lemma result_obey_start (spec : Text) (session : Session) :
    (obey (.start spec)).result session =
      match Command.ofSpec spec with
      | .error failure => (.error failure, session)
      | .ok command =>
        match session.machine.check command with
        | .error cause => (.error (.cannotStart command.program.text cause), session)
        | .ok () => (.ok (), session.log (.start command)) := by
  rw [obey, Action.result_bind_of_ok (Action.result_get session), Action.result_bind,
    Action.result_ofExcept]
  cases Command.ofSpec spec with
  | error failure => rfl
  | ok command =>
    dsimp only
    rw [Machine.start]
    cases session.machine.check command <;> rfl

/-! ### Properties of composed actions -/

/-- A property of actions that composition keeps, also where an action looks at the files, and that
the steps have of which operations are made. -/
structure IsCompositional (assistant : Assistant) (P : (α : Type) → Action Session α → Prop) :
    Prop where
  ofExcept : ∀ {α : Type} (value : Except Failure α), P α (Action.ofExcept value)
  bind : ∀ {α β : Type} {action : Action Session α} {next : α → Action Session β},
    P α action → (∀ a, P β (next a)) → P β (action >>= next)
  look : ∀ {β : Type} {next : Session → Action Session β}, (∀ session, P β (next session)) →
    (∀ session session' : Session, session.machine.files = session'.machine.files →
      next session = next session') → P β (get >>= next)
  ask : ∀ query, P query.Answer (ask assistant query)
  toolchain : P Toolchain (toolchain assistant)
  project : ∀ document, P Project (project assistant document)
  help : ∀ directive, P Region (Session.toolchain assistant >>= fun toolchain =>
    helpRegion toolchain directive)

namespace IsCompositional

variable {assistant : Assistant} {P : (α : Type) → Action Session α → Prop} {α β : Type}

lemma pure (h : IsCompositional assistant P) (a : α) : P α (pure a) :=
  h.ofExcept (.ok a)

lemma map (h : IsCompositional assistant P) {action : Action Session α} (haction : P α action)
    (f : α → β) : P β (f <$> action) := by
  have hbind := h.bind haction fun a => h.pure (f a)
  rwa [← map_eq_pure_bind] at hbind

variable (h : IsCompositional assistant P) (document : Document)

include h

/-! ### Steps -/

lemma decorate (code : Text) (caret : UInt64) :
    P Decoration (decorate assistant document code caret) := by
  rw [Session.decorate]
  split_ifs
  · exact h.pure _
  · refine h.bind h.toolchain fun toolchain =>
      h.look (fun _ => h.pure _) fun session session' hfiles => ?_
    rw [hfiles]

lemma context (code : Text) (position : UInt64) :
    P Context (context assistant document code position) := by
  refine h.bind (h.project document) fun project =>
    h.look (fun _ => h.bind (h.ofExcept _) fun _ => h.pure _) fun session session' hfiles => ?_
  rw [hfiles]

lemma decoratedContext (caret : UInt64) :
    P (Decoration × Context) (decoratedContext assistant document caret) :=
  h.bind (h.ofExcept _) fun code => h.bind (h.decorate document code caret) fun decoration =>
    h.bind (h.context document decoration.text decoration.caret) fun _ => h.pure _

/-! ### Operations -/

lemma directiveRegion (hit : Option Directive.Hit) :
    P Region (directiveRegion assistant document hit) := by
  match hit with
  | none => exact h.pure _
  | some (.directive name) => exact h.help name
  | some (.argument directive word) =>
    refine h.bind (h.project document) fun project =>
      h.look (fun session => ?_) fun session session' hfiles => ?_
    · split
      · exact h.pure _
      · exact h.help directive
    · rw [hfiles]

lemma resolve (caret : UInt64) : P (Option Text) (resolve assistant document caret) := by
  have hengine : P Region (engineRegion assistant document caret) := by
    refine h.bind (h.decoratedContext document caret) fun _ => h.bind (h.ask _) fun _ =>
      h.look (fun _ => h.pure _) fun session session' hfiles => ?_
    rw [hfiles]
  have hregion : P Region (resolveRegion assistant document caret) := by
    refine h.bind (h.ofExcept _) fun code => h.bind (h.directiveRegion document _) fun region => ?_
    split_ifs
    · exact hengine
    · exact h.pure _
  refine h.bind hregion fun region => ?_
  split_ifs
  · exact h.pure _
  · exact h.pure _
  · exact h.pure _

lemma references (caret : UInt64) : P (Option Text) (references assistant document caret) := by
  refine h.bind (h.decoratedContext document caret) fun _ => h.bind (h.ask _) fun _ =>
    h.look (fun _ => h.pure _) fun session session' hfiles => ?_
  rw [hfiles]

lemma completion (caret : UInt64) : P (Option Text) (completion assistant document caret) := by
  refine h.bind (h.bind (h.ofExcept _) fun code => ?_) fun items => h.pure _
  dsimp only
  split_ifs
  · refine h.bind (h.project document) fun project =>
      h.look (fun _ => h.pure _) fun session session' hfiles => ?_
    rw [hfiles]
  · exact h.pure _
  · exact h.bind (h.decoratedContext document caret) fun found => h.ask (.completion found.2)

lemma suggestUsings (word : Text) : P (Option Text) (suggestUsings assistant document word) :=
  h.bind (h.ofExcept _) fun code => h.bind (h.context document code 0) fun _ =>
    h.bind (h.ask _) fun _ => h.pure _

lemma directiveTooltip (hit : Option Directive.Hit) :
    P (Option Text) (directiveTooltip assistant document hit) := by
  match hit with
  | none => exact h.pure _
  | some (.directive name) => exact h.pure _
  | some (.argument directive word) =>
    refine h.bind (h.project document) fun project =>
      h.look (fun session => ?_) fun session session' hfiles => ?_
    · split
      · exact h.pure _
      · exact h.pure _
    · rw [hfiles]

lemma memberBlocks (caret : UInt64) (allOverloads : Bool) :
    P (List Text) (memberBlocks assistant document caret allOverloads) :=
  h.bind (h.decoratedContext document caret) fun _ => h.bind (h.ask _) fun _ => h.pure _

lemma tooltip (caret : UInt64) (hint : Text) (short : Bool) :
    P (Option Text) (tooltip assistant document caret hint short) := by
  refine h.bind (h.bind (h.ofExcept _) fun code => h.bind (h.directiveTooltip document _)
    fun told => ?_) fun text => h.pure _
  split
  · exact h.pure _
  · exact h.bind (h.memberBlocks document caret _) fun _ => h.pure _

lemma codeMap (form : Outline.Form) : P (Option Text) (codeMap assistant document form) :=
  h.bind (h.ofExcept _) fun code => h.bind (h.decorate document code 0) fun _ =>
    h.bind (h.ask _) fun _ => h.pure _

lemma format (caret : UInt64) : P (Option Text) (format assistant document caret) :=
  h.bind (h.ofExcept _) fun _ => h.bind (h.ask _) fun _ => h.pure _

lemma perform (request : Request) (operation : Operation) :
    P (Option Text) (perform assistant document request operation) := by
  cases operation with
  | references => exact h.references document request.caret
  | suggestUsings word => exact h.suggestUsings document word
  | resolve => exact h.resolve document request.caret
  | completion => exact h.completion document request.caret
  | tooltip hint => exact h.tooltip document request.caret hint request.shortTooltips
  | memberInfo hint => exact h.bind (h.memberBlocks document request.caret _) fun _ => h.pure _
  | project => exact h.bind (h.project document) fun _ => h.pure _
  | codeMap => exact h.codeMap document _
  | codeMapTree => exact h.codeMap document .tree
  | format => exact h.format document request.caret

omit document

lemma inquire (request : Request) (path : Path) : P Text (inquire assistant request path) := by
  refine h.look (fun session => ?_) fun session session' hfiles => ?_
  · split_ifs
    · exact h.ofExcept _
    · split
      · exact h.pure _
      · exact h.bind (h.ofExcept _) fun script =>
          h.bind (h.perform ⟨script, request.rich⟩ request _) fun _ => h.pure _
  · rw [hfiles]

/-- A request that controls nothing is handled by composed steps. -/
theorem dispatch {request : Request} (hanalysis : control? request = none) :
    P (Option Text) (dispatch assistant request) := by
  rw [Session.dispatch, hanalysis]
  dsimp only
  split
  · exact h.pure _
  · exact h.map (h.inquire request _) some

end IsCompositional

end Session

end ScriptAssist
