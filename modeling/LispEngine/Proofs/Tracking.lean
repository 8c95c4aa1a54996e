import LispEngine.Proofs.Displacement

/-!
# Actions in displaced worlds

The rules by which two actions end in the same way in a world and in one that is displaced from it,
up to the frames behind the mark, and leave the worlds displaced by the same frame. Frames are never
removed, so a frame that is known stays known.
-/

namespace LispEngine

/-- A world in which `count` frames are known, and one that is displaced from it. -/
structure World.Shifted (mark : Nat) (spare : Frame) (count : Nat) (world twin : World) : Prop where
  grounded : world.Grounded count
  displaced : world.Displaced mark spare twin

/-- Values that are alike when frames behind the mark are not told apart. -/
abbrev Value.Near (mark : Nat) (v w : Value) : Prop := v.Alike (·.blur mark) w

abbrev AllNear (mark : Nat) (vs ws : List Value) : Prop := AllAlike (·.blur mark) vs ws

abbrev Signal.Near (mark : Nat) (signal other : Signal) : Prop := signal.Alike (·.blur mark) other

inductive Signal.Matches (f : FrameId → FrameId) : Signal → Signal → Prop where
  | failed {failure other : Failure} (failures : failure.Alike f other) :
      Matches f (.failed failure) (.failed other)
  | returned {v w : Value} (values : v.Alike f w) : Matches f (.returned v) (.returned w)
  | exhausted : Matches f .exhausted .exhausted

theorem Signal.Alike.cases {f : FrameId → FrameId} {signal other : Signal}
    (h : signal.Alike f other) : signal.Matches f other := by
  cases signal with
  | failed failure =>
      cases other with
      | failed other => exact .failed (failed.inj h)
      | _ => cases h
  | returned v =>
      cases other with
      | returned w => exact .returned (returned.inj h)
      | _ => cases h
  | exhausted =>
      cases other with
      | exhausted => exact .exhausted
      | _ => cases h

namespace Eval

inductive Tracked {α β : Type} (mark : Nat) (P : α → β → World → World → Prop)
    (Q : World → World → Prop) :
    EStateM.Result Signal World α → EStateM.Result Signal World β → Prop where
  | ok {a : α} {b : β} {world twin : World} (after : P a b world twin) :
      Tracked mark P Q (.ok a world) (.ok b twin)
  | error {signal other : Signal} {world twin : World} (signals : signal.Near mark other)
      (after : Q world twin) : Tracked mark P Q (.error signal world) (.error other twin)

def Tracks {α β : Type} (mark : Nat) (spare : Frame) (count : Nat) (R : α → β → Prop)
    (first : Eval α) (second : Eval β) : Prop :=
  ∀ world twin, world.Shifted mark spare count twin →
    Tracked mark (fun a b world twin => R a b ∧ world.Shifted mark spare count twin)
      (World.Shifted mark spare count) (first world) (second twin)

variable {α β γ δ : Type} {mark count : Nat} {spare : Frame}

theorem Tracked.mono {P P' : α → β → World → World → Prop} {Q Q' : World → World → Prop}
    {result : EStateM.Result Signal World α} {other : EStateM.Result Signal World β}
    (h : Tracked mark P Q result other)
    (hok : ∀ a b world twin, P a b world twin → P' a b world twin)
    (herror : ∀ world twin, Q world twin → Q' world twin) :
    Tracked mark P' Q' result other := by
  cases h with
  | ok after => exact .ok (hok _ _ _ _ after)
  | error signals after => exact .error signals (herror _ _ after)

theorem Tracked.bind {P : α → β → World → World → Prop} {P' : γ → δ → World → World → Prop}
    {Q : World → World → Prop} {a : Eval α} {b : Eval β} {f : α → Eval γ} {g : β → Eval δ}
    {world twin : World} (h : Tracked mark P Q (a world) (b twin))
    (hrest : ∀ x y after other, P x y after other → Tracked mark P' Q (f x after) (g y other)) :
    Tracked mark P' Q ((a >>= f) world) ((b >>= g) twin) := by
  change Tracked _ _ _ (EStateM.bind a f world) (EStateM.bind b g twin)
  unfold EStateM.bind
  generalize a world = result, b twin = other at h
  cases h with
  | ok after => exact hrest _ _ _ _ after
  | error signals after => exact .error signals after

namespace Tracks

variable {R : α → β → Prop} {S : γ → δ → Prop}

theorem pure {a : α} {b : β} (h : R a b) :
    Tracks mark spare count R (Pure.pure a) (Pure.pure b) :=
  fun _ _ hshifted => .ok ⟨h, hshifted⟩

theorem throw {signal other : Signal} (h : signal.Near mark other) :
    Tracks mark spare count R (throw signal) (MonadExcept.throw other) :=
  fun _ _ hshifted => .error h hshifted

theorem bind {a : Eval α} {b : Eval β} {f : α → Eval γ} {g : β → Eval δ}
    (h : Tracks mark spare count R a b)
    (hrest : ∀ x y, R x y → Tracks mark spare count S (f x) (g y)) :
    Tracks mark spare count S (a >>= f) (b >>= g) :=
  fun world twin hshifted => (h world twin hshifted).bind fun x y after other hafter =>
    hrest x y hafter.1 after other hafter.2

theorem recount {a : Eval α} {b : Eval β} {world twin : World} {more : Nat} (hle : count ≤ more)
    (h : Tracks mark spare more R a b) (hshifted : world.Shifted mark spare more twin) :
    Tracked mark (fun a b world twin => R a b ∧ world.Shifted mark spare count twin)
      (World.Shifted mark spare count) (a world) (b twin) :=
  (h world twin hshifted).mono
    (fun _ _ _ _ after => ⟨after.1, after.2.grounded.mono hle, after.2.displaced⟩)
    fun _ _ after => ⟨after.grounded.mono hle, after.displaced⟩

theorem ite {condition : Bool} {a b : Eval α} {c d : Eval β} (hthen : Tracks mark spare count R a c)
    (helse : Tracks mark spare count R b d) :
    Tracks mark spare count R (if condition then a else b) (if condition then c else d) := by
  split
  · exact hthen
  · exact helse

theorem fail (cause : Cause) : Tracks mark spare count R (fail cause) (Eval.fail cause) :=
  throw rfl

theorem ofExcept {g : α → γ} {k : β → γ} {result : Except Cause α} {other : Except Cause β}
    (h : result.map g = other.map k) :
    Tracks mark spare count (fun a b => g a = k b) (ofExcept result) (Eval.ofExcept other) := by
  cases result with
  | ok a =>
      cases other with
      | ok b => exact pure (Except.ok.inj h)
      | error cause => cases h
  | error cause =>
      cases other with
      | ok b => cases h
      | error cause' =>
          obtain rfl := Except.error.inj h
          exact fail cause

end Tracks

inductive SameOutcome (mark : Nat) (R : α → β → Prop) :
    Except Signal α → Except Signal β → Prop where
  | ok {a : α} {b : β} (values : R a b) : SameOutcome mark R (.ok a) (.ok b)
  | error {signal other : Signal} (signals : signal.Near mark other) :
      SameOutcome mark R (.error signal) (.error other)

namespace Tracks

variable {R : α → β → Prop}

theorem observe {a : Eval α} {b : Eval β} (h : Tracks mark spare count R a b) :
    Tracks mark spare count (SameOutcome mark R) (observe a) (observe b) := by
  intro world twin hshifted
  have hrun := h world twin hshifted
  unfold Eval.observe
  generalize a world = result, b twin = other at hrun
  cases hrun with
  | ok after => exact .ok ⟨.ok after.1, after.2⟩
  | error signals after =>
      cases signals.cases with
      | failed failures => exact .ok ⟨.error signals, after⟩
      | returned values => exact .ok ⟨.error signals, after⟩
      | exhausted => exact .error signals after

theorem resume {outcome : Except Signal α} {other : Except Signal β}
    (h : SameOutcome mark R outcome other) :
    Tracks mark spare count R (resume outcome) (Eval.resume other) := by
  cases h with
  | ok values => exact pure values
  | error signals => exact throw signals

theorem catchReturn {a b : Eval Value} (h : Tracks mark spare count (Value.Near mark) a b) :
    Tracks mark spare count (Value.Near mark) (catchReturn a) (Eval.catchReturn b) := by
  refine h.observe.bind ?_
  intro outcome other hsame
  cases hsame with
  | ok values => exact pure values
  | error signals =>
      cases signals.cases with
      | failed failures => exact throw signals
      | returned values => exact pure values
      | exhausted => exact throw signals

end Tracks

/-! ## Changes of the world -/

theorem modify_tracks {change other : World → World}
    (h : ∀ world twin, world.Shifted mark spare count twin →
      (change world).Shifted mark spare count (other twin)) :
    Tracks mark spare count (fun _ _ => True) (modify change) (modify other) :=
  fun world twin hshifted => .ok ⟨trivial, h world twin hshifted⟩

theorem setLocal_tracks (scope : FrameId) (name : String) {v w : Value} (h : v.Near mark w) :
    Tracks mark spare count (fun _ _ => True) (setLocal scope name v)
      (setLocal (scope.displace mark) name w) := by
  refine modify_tracks fun world twin hshifted => ⟨?_, ?_⟩
  · exact hshifted.grounded.modifyFrame scope fun _ => rfl
  · exact hshifted.displaced.modifyFrame scope fun _ _ hsame => hsame.set name h

theorem define_tracks (scope : FrameId) (name : String) {v w : Value} (h : v.Near mark w) :
    Tracks mark spare count (fun _ _ => True) (define scope name v)
      (define (scope.displace mark) name w) := by
  intro world twin hshifted
  have hbinds := hshifted.displaced.bindsLocally_eq scope name
  unfold define World.define
  rw [hbinds]
  cases world.bindsLocally name scope with
  | true => exact .error rfl hshifted
  | false => exact setLocal_tracks scope name h world twin hshifted

theorem update_tracks (discipline : Discipline) (scope : FrameId) (name : String) {v w : Value}
    (h : v.Near mark w) :
    Tracks mark spare count (fun _ _ => True)
      (modify fun world => world.update discipline scope name v)
      (modify fun world => world.update discipline (scope.displace mark) name w) := by
  intro world twin hshifted
  have hdescending := hshifted.grounded.frames
  cases discipline with
  | global =>
      have hroot := hshifted.displaced.rootOf_eq hdescending scope
      have hset := setLocal_tracks (world.rootOf scope) name h world twin hshifted
      rw [← hroot] at hset
      exact hset
  | nearest =>
      have hbinder : (twin.binder? (scope.displace mark) name).getD (scope.displace mark) =
          ((world.binder? scope name).getD scope).displace mark := by
        rw [hshifted.displaced.binder?_eq hdescending]
        cases world.binder? scope name <;> rfl
      have hset :=
        setLocal_tracks ((world.binder? scope name).getD scope) name h world twin hshifted
      rw [← hbinder] at hset
      exact hset

theorem addFrame_bind_tracks {R : α → β → Prop} {make other : World → Frame}
    {next : FrameId → Eval α} {next' : FrameId → Eval β}
    (hmake : ∀ world twin, world.Shifted mark spare count twin →
      (make world).Resembles mark (other twin) ∧
        ∀ parent, (make world).parent = some parent → parent.index < count)
    (h : ∀ inner more, count ≤ more → inner.index < more →
      Tracks mark spare more R (next inner) (next' (inner.displace mark))) :
    Tracks mark spare count R ((modifyGet fun world => world.addFrame (make world)) >>= next)
      ((modifyGet fun world => world.addFrame (other world)) >>= next') := by
  intro world twin hshifted
  obtain ⟨hsame, hparent⟩ := hmake world twin hshifted
  obtain ⟨hnew, hdisplaced⟩ := hshifted.displaced.addFrame hsame
  have hafter : (world.addFrame (make world)).2.Shifted mark spare (world.frames.size + 1)
      (twin.addFrame (other twin)).2 := ⟨hshifted.grounded.addFrame hparent, hdisplaced⟩
  have hknown := hshifted.grounded.known
  have hlt : (world.addFrame (make world)).1.index < world.frames.size + 1 := Nat.lt_succ_self _
  have hle : count ≤ world.frames.size + 1 := by omega
  have hnext := h _ (world.frames.size + 1) hle hlt
  rw [← hnew] at hnext
  have hrun := hnext.recount hle hafter
  exact hrun

theorem addChild_bind_tracks {R : α → β → Prop} {parent : FrameId} (hparent : parent.index < count)
    {next : FrameId → Eval α} {next' : FrameId → Eval β}
    (h : ∀ inner more, count ≤ more → inner.index < more →
      Tracks mark spare more R (next inner) (next' (inner.displace mark))) :
    Tracks mark spare count R (addChild parent >>= next)
      (addChild (parent.displace mark) >>= next') := by
  refine addFrame_bind_tracks ?_ h
  intro world twin hshifted
  refine ⟨?_, ?_⟩
  · rw [hshifted.displaced.missingPolicy_eq]
    rfl
  · rintro _ ⟨⟩
    exact hparent

theorem addCallFrame_bind_tracks {R : α → β → Prop} {parent : FrameId}
    (hparent : parent.index < count) (spec : LambdaList Node) {next : FrameId → Eval α}
    {next' : FrameId → Eval β}
    (h : ∀ inner more, count ≤ more → inner.index < more →
      Tracks mark spare more R (next inner) (next' (inner.displace mark))) :
    Tracks mark spare count R ((modifyGet fun world => world.addCallFrame parent spec) >>= next)
      ((modifyGet fun world => world.addCallFrame (parent.displace mark) spec) >>= next') := by
  refine addFrame_bind_tracks ?_ h
  intro world twin hshifted
  refine ⟨?_, ?_⟩
  · rw [hshifted.displaced.missingPolicy_eq]
    simp [Frame.Resembles, Frame.rescope, Frame.displace, Frame.root, Bindings.rescope]
  · rintro _ ⟨⟩
    exact hparent

theorem setThunk_tracks (id : ThunkId) {thunk other : Thunk} (hthunks : thunk.Resembles mark other)
    (hthunk : ∀ node scope, thunk = .pending node scope → node.Discreet ∧ scope.index < count) :
    Tracks mark spare count (fun _ _ => True) (modify fun world => world.setThunk id thunk)
      (modify fun world => world.setThunk id other) := by
  refine modify_tracks fun world twin hshifted => ⟨?_, hshifted.displaced.setThunk id hthunks⟩
  refine hshifted.grounded.setThunk id fun node scope hpending => ?_
  obtain ⟨hnode, hscope⟩ := hthunk node scope hpending
  exact ⟨hnode, Nat.lt_of_lt_of_le hscope hshifted.grounded.known⟩

theorem addThunk_tracks {node other : Node} {scope : FrameId} (hscope : scope.index < count)
    (hnode : node.Discreet) (hnodes : node.Alike (·.blur mark) other) :
    Tracks mark spare count (· = ·) (modifyGet fun world => world.addThunk node scope)
      (modifyGet fun world => world.addThunk other (scope.displace mark)) := by
  intro world twin hshifted
  obtain ⟨hid, hdisplaced⟩ := hshifted.displaced.addThunk hnodes scope
  exact .ok ⟨hid.symm, hshifted.grounded.addThunk hnode hscope, hdisplaced⟩

theorem addError_tracks {failure other : Failure} (h : failure.Alike (·.blur mark) other) :
    Tracks mark spare count (Value.Near mark) (modifyGet fun world => world.addError failure)
      (modifyGet fun world => world.addError other) := by
  intro world twin hshifted
  obtain ⟨hvalues, hdisplaced⟩ := hshifted.displaced.addError h
  exact .ok ⟨hvalues, { hshifted.grounded with }, hdisplaced⟩

theorem close_tracks {scope : FrameId} (hscope : scope.index < count) (name : Option String)
    {parts : LambdaParts Node} (hparts : ∀ node ∈ parts.children, node.Discreet) :
    Tracks mark spare count (· = ·) (close scope name parts)
      (close (scope.displace mark) name parts) := by
  intro world twin hshifted
  obtain ⟨href, hdisplaced⟩ := hshifted.displaced.addFunction (.closure { name, parts, scope })
  have hcallable : (Callable.closure { name, parts, scope }).Discreet := ⟨hparts, by rintro _ ⟨⟩⟩
  refine .ok ⟨href.symm, hshifted.grounded.addFunction hcallable ?_, hdisplaced⟩
  rintro _ ⟨⟩
  exact hscope

theorem defineFunction_tracks (name : String) (ref : FunctionRef) :
    Tracks mark spare count (fun _ _ => True)
      (modify fun world => { world with defs := world.defs.defineFunction name ref })
      (modify fun world => { world with defs := world.defs.defineFunction name ref }) :=
  modify_tracks fun _ _ hshifted =>
    ⟨{ hshifted.grounded with }, hshifted.displaced.defineFunction name ref⟩

theorem callableOf_bind_tracks {R : α → β → Prop} (ref : FunctionRef) {next : Callable → Eval α}
    {next' : Callable → Eval β}
    (h : ∀ callable more, count ≤ more → 0 < mark → mark ≤ more → callable.Discreet →
      (∀ closure, callable = .closure closure → closure.scope.index < more) →
      Tracks mark spare more R (next callable) (next' (callable.displace mark))) :
    Tracks mark spare count R (callableOf ref >>= next) (callableOf ref >>= next') := by
  intro world twin hshifted
  have hfunction := hshifted.displaced.function?_eq ref
  unfold callableOf
  simp only [bind_assoc, run_get_bind]
  cases hfound : world.defs.function? ref with
  | none =>
      rw [hfound] at hfunction
      rw [hfunction]
      exact .error rfl hshifted
  | some callable =>
      rw [hfound] at hfunction
      rw [hfunction]
      obtain ⟨hdiscreet, hscope⟩ := hshifted.grounded.function hfound
      have hafter : world.Shifted mark spare world.frames.size twin :=
        ⟨{ hshifted.grounded with known := Nat.le_refl _ }, hshifted.displaced⟩
      have hknown := hshifted.grounded.known
      have hnext :=
        h callable _ hknown hshifted.displaced.root hshifted.displaced.bound hdiscreet hscope
      exact hnext.recount hknown hafter

end Eval

end LispEngine
