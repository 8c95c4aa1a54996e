import LispEngine.Proofs.Compiled

/-!
# Late binding

The code of a form depends on the special forms and special expressions of the table, and not on its
functions: a call is bound when it is evaluated. Pipelines are the exception, since they look up
where a function takes the piped value.
-/

namespace LispEngine

open Compile

structure SameOn (P : Form → Prop) (inner other : FormCompiler) : Prop where
  node {form : Form} : P form → inner form = other form
  item {form : Form} {items : List Form} : P form → form.items? = some items →
    ∀ item ∈ items, P item

namespace SameOn

variable {P : Form → Prop} {inner other : FormCompiler} (hs : SameOn P inner other)

include hs

theorem all_eq {forms : List Form} (h : ∀ form ∈ forms, P form) :
    all inner forms = all other forms := by
  induction forms with
  | nil => rfl
  | cons form forms ih =>
      have hfirst := hs.node (h form (by simp))
      have hrest := ih fun f hf => h f (by simp [hf])
      simp only [all, hfirst, hrest]

theorem optional_eq {form : Option Form} (h : ∀ f, form = some f → P f) :
    Compile.optional inner form = Compile.optional other form := by
  cases form with
  | none => rfl
  | some form =>
      have hform := hs.node (h form rfl)
      simp only [Compile.optional, hform]

/-! ## Lambda lists -/

theorem parameterToken_eq {form : Form} (h : P form) :
    parameterToken inner form = parameterToken other form := by
  cases form with
  | leaf value position problem => cases value <;> rfl
  | list items literal position problem =>
      have hdefault : Compile.optional inner items[1]? = Compile.optional other items[1]? :=
        hs.optional_eq fun f hf => hs.item h rfl f (List.mem_of_getElem? hf)
      simp only [parameterToken, Form.symbol?, Form.items?, hdefault]

private theorem readParameters_eq (reader : LambdaReader Node) {forms : List Form}
    (h : ∀ form ∈ forms, P form) :
    readParameters inner reader forms = readParameters other reader forms := by
  induction forms generalizing reader with
  | nil => rfl
  | cons form forms ih =>
      have htoken := hs.parameterToken_eq (h form (by simp))
      have hrest (next : LambdaReader Node) :
          readParameters inner next forms = readParameters other next forms :=
        ih next fun f hf => h f (by simp [hf])
      simp only [readParameters, htoken, hrest]

theorem lambdaParts_eq {parameters : Form} {rest : List Form} (h : P parameters)
    (hrest : ∀ form ∈ rest, P form) :
    lambdaParts inner parameters rest = lambdaParts other parameters rest := by
  cases hitems : parameters.items? with
  | none => simp only [lambdaParts, hitems]
  | some items =>
      have hreader := hs.readParameters_eq .start (hs.item h hitems)
      have hbody : ∀ form ∈ (splitDoc rest).2, P form :=
        fun form hform => hrest form (splitDoc_subset rest hform)
      simp only [lambdaParts, hitems, lambdaList, hreader, hs.all_eq hbody]

/-! ## Special forms -/

variable {parameters : List Form} (h : ∀ form ∈ parameters, P form)

include h

theorem ifElse_eq (position : Position) :
    Special.ifElse inner parameters position = Special.ifElse other parameters position := by
  rcases parameters with _ | ⟨test, _ | ⟨onTrue, onFalse⟩⟩
  · rfl
  · rfl
  · have htest := hs.node (h test (by simp))
    have htrue := hs.node (h onTrue (by simp))
    have hfalse : all inner onFalse = all other onFalse :=
      hs.all_eq fun f hf => h f (by simp [hf])
    simp only [Special.ifElse, htest, htrue, hfalse]

theorem condClauses_eq :
    Special.condClauses inner parameters = Special.condClauses other parameters := by
  induction parameters with
  | nil => rfl
  | cons clause clauses ih =>
      have hrest := ih fun f hf => h f (by simp [hf])
      cases hitems : clause.items? with
      | none => simp only [Special.condClauses, hitems]
      | some items =>
          have hitem := hs.item (h clause (by simp)) hitems
          cases items with
          | nil => simp only [Special.condClauses, hitems]
          | cons test body =>
              have htest := hs.node (hitem test (by simp))
              have hbody := hs.all_eq fun f hf => hitem f (List.mem_cons_of_mem test hf)
              simp only [Special.condClauses, hitems, htest, hbody, hrest]

theorem guarded_eq (form : String) (position : Position) :
    Special.guarded inner form parameters position =
      Special.guarded other form parameters position := by
  cases parameters with
  | nil => rfl
  | cons test body =>
      have htest := hs.node (h test (by simp))
      have hbody := hs.all_eq fun f hf => h f (List.mem_cons_of_mem test hf)
      simp only [Special.guarded, htest, hbody]

theorem foreach_eq (position : Position) :
    Special.foreach inner parameters position = Special.foreach other parameters position := by
  cases parameters with
  | nil => rfl
  | cons header body =>
      have hbody := hs.all_eq fun f hf => h f (List.mem_cons_of_mem header hf)
      cases hparts : Special.foreachHeader? header with
      | none => simp only [Special.foreach, hparts]
      | some parts =>
          obtain ⟨name, source, result⟩ := parts
          obtain ⟨items, hitems, -, hsource, hresult⟩ := foreachHeader?_eq_some hparts
          have hitem := hs.item (h header (by simp)) hitems
          have hsourceNode := hs.node (hitem source hsource)
          have hresultNode := hs.optional_eq fun f hf => hitem f (hresult f hf)
          simp only [Special.foreach, hparts, hsourceNode, hresultNode, hbody]

theorem throwForm_eq (position : Position) :
    Special.throwForm inner parameters position = Special.throwForm other parameters position := by
  rcases parameters with _ | ⟨first, _ | ⟨second, _ | ⟨third, more⟩⟩⟩
  · rfl
  · have hfirst := hs.node (h first (by simp))
    simp only [Special.throwForm, hfirst]
  · have hsecond := hs.node (h second (by simp))
    simp only [Special.throwForm, hsecond]
  · rfl

omit h in
private theorem letBinding_eq {form : Form} (hform : P form) :
    Special.letBinding inner form = Special.letBinding other form := by
  cases form with
  | leaf value position problem => cases value <;> rfl
  | list items literal position problem =>
      have hitem := hs.item hform rfl
      rcases items with _ | ⟨name, _ | ⟨value, _ | ⟨third, more⟩⟩⟩
      · rfl
      · rfl
      · have hvalue := hs.node (hitem value (by simp))
        simp only [Special.letBinding, Form.symbol?, Form.items?, hvalue]
      · rfl

private theorem letBindings_eq :
    Special.letBindings inner parameters = Special.letBindings other parameters := by
  induction parameters with
  | nil => rfl
  | cons form forms ih =>
      have hbinding := hs.letBinding_eq (h form (by simp))
      have hrest := ih fun f hf => h f (by simp [hf])
      simp only [Special.letBindings, hbinding, hrest]

theorem letForm_eq (position : Position) :
    Special.letForm inner parameters position = Special.letForm other parameters position := by
  cases parameters with
  | nil => rfl
  | cons header body =>
      have hbody := hs.all_eq fun f hf => h f (List.mem_cons_of_mem header hf)
      cases hitems : header.items? with
      | none => simp only [Special.letForm, hitems]
      | some items =>
          have hbindings := hs.letBindings_eq (hs.item (h header (by simp)) hitems)
          simp only [Special.letForm, hitems, hbindings, hbody]

theorem dlet_eq (position : Position) :
    Special.dlet inner parameters position = Special.dlet other parameters position := by
  rcases parameters with _ | ⟨pattern, _ | ⟨source, body⟩⟩
  · rfl
  · rfl
  · have hsource := hs.node (h source (by simp))
    have hbody : all inner body = all other body := hs.all_eq fun f hf => h f (by simp [hf])
    simp only [Special.dlet, hsource, hbody]

theorem assignments_eq :
    Special.assignments inner parameters = Special.assignments other parameters := by
  induction parameters using Special.assignments.induct with
  | case1 name value rest ih =>
      have hvalue := hs.node (h value (by simp))
      have hrest := ih fun f hf => h f (by simp [hf])
      simp only [Special.assignments, hvalue, hrest]
  | case2 forms hshort =>
      rcases forms with _ | ⟨name, _ | ⟨value, rest⟩⟩
      · rfl
      · rfl
      · exact absurd rfl (hshort name value rest)

theorem lambda_eq (position : Position) :
    Special.lambda inner parameters position = Special.lambda other parameters position := by
  cases parameters with
  | nil => rfl
  | cons list rest =>
      have hparts := hs.lambdaParts_eq (h list (by simp)) fun f hf =>
        h f (List.mem_cons_of_mem list hf)
      simp only [Special.lambda, hparts]

theorem defun_eq (position : Position) :
    Special.defun inner parameters position = Special.defun other parameters position := by
  rcases parameters with _ | ⟨name, _ | ⟨list, rest⟩⟩
  · rfl
  · rfl
  · have hparts : lambdaParts inner list rest = lambdaParts other list rest :=
      hs.lambdaParts_eq (h list (by simp)) fun f hf => h f (by simp [hf])
    simp only [Special.defun, hparts]

theorem function_eq (position : Position) :
    Special.function inner parameters position = Special.function other parameters position := by
  rcases parameters with _ | ⟨form, _ | ⟨second, more⟩⟩
  · rfl
  · have hform := hs.node (h form (by simp))
    simp only [Special.function, hform]
  · rfl

private theorem catchClauses_eq :
    Special.catchClauses inner parameters = Special.catchClauses other parameters := by
  have hclause (clause : Form) (hform : P clause) :
      Special.catchClause inner clause = Special.catchClause other clause := by
    cases hitems : clause.items? with
    | none => simp only [Special.catchClause, hitems]
    | some items =>
        rcases items with _ | ⟨head, _ | ⟨kind, _ | ⟨name, body⟩⟩⟩
        · simp only [Special.catchClause, hitems]
        · simp only [Special.catchClause, hitems]
        · simp only [Special.catchClause, hitems]
        · have hbody : all inner body = all other body :=
            hs.all_eq fun f hf => hs.item hform hitems f (by simp [hf])
          simp only [Special.catchClause, hitems, hbody]
  induction parameters with
  | nil => rfl
  | cons clause clauses ih =>
      have hfirst := hclause clause (h clause (by simp))
      have hrest := ih fun f hf => h f (by simp [hf])
      simp only [Special.catchClauses, hfirst, hrest]

omit h in
private theorem finalizerBody_eq {clause : Option Form} (hclause : ∀ f, clause = some f → P f) :
    Special.finalizerBody inner clause = Special.finalizerBody other clause := by
  cases clause with
  | none => rfl
  | some clause =>
      have hbody : ∀ form ∈ (clause.items?.getD []).drop 1, P form := by
        intro form hform
        cases hitems : clause.items? with
        | none => simp [hitems] at hform
        | some items =>
            rw [hitems] at hform
            exact hs.item (hclause clause rfl) hitems form (List.mem_of_mem_drop hform)
      simp only [Special.finalizerBody, hs.all_eq hbody]

private theorem tryForm_eq :
    Special.tryForm inner parameters = Special.tryForm other parameters := by
  cases hsplit : splitClauses parameters with
  | error failure =>
      unfold Special.tryForm
      rw [hsplit]
      rfl
  | ok clauses =>
      obtain ⟨hbody, hcatches, hfinalizer⟩ := mem_splitClauses hsplit
      have hhandlers := hs.catchClauses_eq fun f hf => h f (hcatches hf)
      have hfinally := hs.finalizerBody_eq fun f hf => h f (hfinalizer f hf)
      have hprotected := hs.all_eq fun f hf => h f (hbody hf)
      have hrun (compiler : FormCompiler) : Special.tryForm compiler parameters = (do
          let catches ← Special.catchClauses compiler clauses.catches
          let finalizer ← Special.finalizerBody compiler clauses.finalizer
          let body ← all compiler clauses.body
          return .tryCatch body catches finalizer) := by
        unfold Special.tryForm
        rw [hsplit]
        rfl
      rw [hrun inner, hrun other, hhandlers, hfinally, hprotected]

/-- A special form other than a pipeline uses the table only through the compiler of inner forms. -/
theorem special_eq (defs others : Definitions) {form : SpecialForm} (hform : form ≠ .pipe)
    (position : Position) :
    Special.compile inner defs form parameters position =
      Special.compile other others form parameters position := by
  have hall := hs.all_eq h
  have hguarded (name : String) := hs.guarded_eq h name position
  have hreturned : Compile.optional inner parameters.head? =
      Compile.optional other parameters.head? :=
    hs.optional_eq fun f hf => h f (List.mem_of_head? hf)
  cases form with
  | quote => rfl
  | progn => simp only [Special.compile, Special.progn, hall]
  | ifElse => exact hs.ifElse_eq h position
  | cond => simp only [Special.compile, Special.cond, hs.condClauses_eq h]
  | whenTrue => simp only [Special.compile, Special.whenTrue, hguarded]
  | whenFalse => simp only [Special.compile, Special.whenFalse, hguarded]
  | allOf => simp only [Special.compile, Special.allOf, hall]
  | anyOf => simp only [Special.compile, Special.anyOf, hall]
  | whileLoop => simp only [Special.compile, Special.whileLoop, hguarded]
  | foreach => exact hs.foreach_eq h position
  | returnForm => simp only [Special.compile, Special.returnForm, hreturned]
  | throwForm => exact hs.throwForm_eq h position
  | pipe => exact absurd rfl hform
  | letForm => exact hs.letForm_eq h position
  | dlet => exact hs.dlet_eq h position
  | setq => simp only [Special.compile, Special.assign, hs.assignments_eq h]
  | setv => simp only [Special.compile, Special.assign, hs.assignments_eq h]
  | lambda => exact hs.lambda_eq h position
  | defun => exact hs.defun_eq h position
  | function => exact hs.function_eq h position
  | tryForm => exact hs.tryForm_eq h

end SameOn

/-! ## Operators of a table -/

def EntryKind.isFunction : EntryKind → Bool
  | .function _ => true
  | _ => false

def EntryKind.isPipe : EntryKind → Bool
  | .form (.special .pipe) => true
  | _ => false

def Definitions.operator? (defs : Definitions) (name : String) : Option EntryKind :=
  ((defs.entry? name).map Entry.kind).filter (!·.isFunction)

namespace Definitions

variable {defs : Definitions} {name : String}

theorem operator?_eq_some {kind : EntryKind} (h : defs.operator? name = some kind) :
    (defs.entry? name).map Entry.kind = some kind :=
  (Option.filter_eq_some_iff.mp h).1

theorem operator?_defineFunction (hname : defs.operator? name = none) (ref : FunctionRef)
    (other : String) : (defs.defineFunction name ref).operator? other = defs.operator? other := by
  simp only [operator?, entry?, defineFunction, install, Bindings.find?_insert]
  split
  · rename_i hsame
    simp only [operator?, entry?] at hname
    rw [hsame, hname]
    rfl
  · rfl

private theorem compileOperator_of_none (h : defs.operator? name = none) (inner : FormCompiler)
    (arguments : List Form) (position : Position) :
    compileOperator inner defs name arguments position = compileNamedCall inner name arguments := by
  unfold compileOperator
  cases hkind : (defs.entry? name).map Entry.kind with
  | none => rfl
  | some kind =>
      rw [operator?, hkind] at h
      cases kind with
      | form operator => simp [EntryKind.isFunction] at h
      | expression operator => simp [EntryKind.isFunction] at h
      | function ref => rfl

end Definitions

/-! ## Forms -/

namespace Form

theorem mentions_list {name : String} {items : List Form} {literal : Bool} {position : Position}
    {problem : Option String} (h : (list items literal position problem).mentions name = false) :
    ∀ item ∈ items, item.mentions name = false := by
  intro item hitem
  simp only [mentions, leaves, List.any_eq_false] at h ⊢
  exact fun v hv => h v (mem_leavesIn.mpr ⟨item, hitem, hv⟩)

end Form

/-- The tables have the same operators, and none of them is a pipeline under another name. -/
structure SameOperators (defs others : Definitions) : Prop where
  operator (name : String) : defs.operator? name = others.operator? name
  pipe : ∀ pair ∈ defs.table, pair.2.kind.isPipe = true → pair.1 = SpecialForm.pipe.name

namespace SameOperators

variable {defs others : Definitions} (hd : SameOperators defs others) {inner other : FormCompiler}
  (hs : SameOn (fun form => form.mentions SpecialForm.pipe.name = false) inner other)

include hd hs

theorem compileOperator_eq {name : String}
    (hname : Text.sameName name SpecialForm.pipe.name = false) {arguments : List Form}
    (harguments : ∀ form ∈ arguments, form.mentions SpecialForm.pipe.name = false)
    (position : Position) :
    compileOperator inner defs name arguments position =
      compileOperator other others name arguments position := by
  have hall := hs.all_eq harguments
  have hsame := hd.operator name
  cases hkind : defs.operator? name with
  | none =>
      rw [hkind] at hsame
      rw [Definitions.compileOperator_of_none hkind, Definitions.compileOperator_of_none hsame.symm]
      simp only [compileNamedCall, hall]
  | some kind =>
      have hleft := Definitions.operator?_eq_some hkind
      have hright := Definitions.operator?_eq_some (hsame.symm.trans hkind)
      simp only [compileOperator, hleft, hright]
      cases kind with
      | form operator =>
          cases operator with
          | special form =>
              refine congrArg (· >>= fun parameters => setParameters parameters position)
                (hs.special_eq harguments defs others ?_ position)
              rintro rfl
              obtain ⟨entry, hentry, hpipe⟩ := Option.map_eq_some_iff.mp hleft
              have hnamed : Text.canonical name = SpecialForm.pipe.name :=
                hd.pipe _ (mem_of_lookup hentry) (by rw [hpipe]; rfl)
              have hcanonical : Text.canonical SpecialForm.pipe.name = SpecialForm.pipe.name := by
                decide +kernel
              simp [Text.sameName, hnamed, hcanonical] at hname
          | host accept => rfl
      | expression operator =>
          cases operator with
          | special expression => simp only [hall]
          | host accept => simp only [hall]
      | function ref => simp only [compileNamedCall, hall]

theorem compileCall_eq {head : Form} (hhead : head.mentions SpecialForm.pipe.name = false)
    {arguments : List Form}
    (harguments : ∀ form ∈ arguments, form.mentions SpecialForm.pipe.name = false)
    (position : Position) :
    compileCall inner defs head arguments position =
      compileCall other others head arguments position := by
  cases head with
  | list items literal place problem =>
      have hcallee := hs.node hhead
      have hall := hs.all_eq harguments
      simp only [compileCall, compileComputedCall, hcallee, hall]
  | leaf value place problem =>
      cases value with
      | symbol name =>
          have hname : Text.sameName name SpecialForm.pipe.name = false := by
            simpa [Form.mentions, Form.leaves] using hhead
          have hoperator := hd.compileOperator_eq hs hname harguments position
          simp only [compileCall, hoperator]
      | _ => rfl

private theorem compileStep_eq {form : Form} (hform : form.mentions SpecialForm.pipe.name = false) :
    compileStep inner defs form = compileStep other others form := by
  cases hproblem : form.problem with
  | some text => simp only [compileStep, hproblem]
  | none =>
      cases form with
      | leaf value position problem => cases value <;> simp only [compileStep, hproblem]
      | list items literal position problem =>
          have hitems := Form.mentions_list hform
          rcases items with _ | ⟨head, arguments⟩
          · cases literal <;> simp only [compileStep, hproblem]
          · have hcall := hd.compileCall_eq hs (hitems head (by simp))
              (fun f hf => hitems f (List.mem_cons_of_mem head hf)) position
            cases literal <;> simp only [compileStep, hproblem, hcall]

end SameOperators

private theorem compileWithin_sameOn {defs others : Definitions} (hd : SameOperators defs others)
    (height : Nat) :
    SameOn (fun form => form.mentions SpecialForm.pipe.name = false) (compileWithin defs height)
      (compileWithin others height) := by
  have hitem {form : Form} {items : List Form}
      (hform : form.mentions SpecialForm.pipe.name = false) (hitems : form.items? = some items) :
      ∀ item ∈ items, item.mentions SpecialForm.pipe.name = false := by
    cases form with
    | leaf value position problem => cases hitems
    | list found literal position problem =>
        obtain rfl := Option.some.inj hitems
        exact Form.mentions_list hform
  induction height with
  | zero => exact ⟨fun _ => rfl, hitem⟩
  | succ height ih => exact ⟨hd.compileStep_eq ih, hitem⟩

private theorem compileChecked_eq {defs others : Definitions} (hd : SameOperators defs others)
    {form : Form} (hform : form.mentions SpecialForm.pipe.name = false) :
    compileChecked defs form = compileChecked others form := by
  have hcompiled := (compileWithin_sameOn hd form.size).node hform
  simp only [compileChecked, compileForm, hcompiled]

/-- A form that mentions no pipeline is compiled to the same node, or refused with the same failure,
whatever functions there are. -/
theorem Interpreter.compile_bound_late {defs others : Definitions} (hd : SameOperators defs others)
    {form : Form} (hform : form.mentions SpecialForm.pipe.name = false) (settings : Settings)
    (world : World) :
    (run ⟨settings, { world with defs }⟩ (compile form)).1 =
      (run ⟨settings, { world with defs := others }⟩ (compile form)).1 := by
  simp only [run, compile, compiling, compileChecked_eq hd hform]
  cases compileChecked others form world.sites.size with
  | ok node count => rfl
  | error signal count => rfl

/-- A body that calls a function is compiled alike before and after the function is defined. -/
theorem Interpreter.compile_bound_late_undefined :
    let settings : Settings := ⟨.raise, Settings.defaultDepth⟩
    let world := World.initial .raise
    let others := world.defs.defineFunction "F" ⟨0, "F"⟩
    let call : Form := .ofItems [.ofSymbol "f" .start, .ofSymbol "X" .start] .start
    let form : Form := .ofItems [.ofSymbol "LAMBDA" .start, .ofItems [.ofSymbol "X" .start] .start,
      call] .start
    (functionNamed? world.defs "F" = none ∧ functionNamed? others "F" = some ⟨0, "F"⟩) ∧
      SameOperators world.defs others ∧ form.mentions SpecialForm.pipe.name = false ∧
        (run (new settings) (compile form)).1 =
          (run ⟨settings, { world with defs := others }⟩ (compile form)).1 := by
  intro settings world others call form
  have hfree : (world.defs.operator? "F").isNone = true := by decide +kernel
  have htables : SameOperators world.defs others := {
    operator := fun name =>
      (Definitions.operator?_defineFunction (Option.isNone_iff_eq_none.mp hfree) _ name).symm
    pipe := by decide +kernel }
  have hform : form.mentions SpecialForm.pipe.name = false := by decide +kernel
  exact ⟨by decide +kernel, htables, hform, compile_bound_late htables hform settings world⟩

end LispEngine
