import Stencil.Proofs.Rendering.Run

/-! # Isolation of calls

What a function is called with depends on the root and on its own call, and on nothing that
was done before it in the run. That functions write to their variables as they like is made
explicit by keeping all variables in memory: those of the caller, the root, which is read
afresh for every block, and one cell for each function that is started. A rendering in memory
does what a rendering without it does, and leaves every cell as it was but those of the
functions that it started.
-/

namespace Stencil

variable {σ : Type}

/-! ## What a function is called with -/

namespace Call

/-- The arguments of a call with the names they go to: the unnamed one goes to the main input. -/
def bound (call : Call) (root : Variables) : List (Text × Text) :=
  call.input.toList.map (fun operand => (Variables.inputName, operand.resolve root)) ++
    call.named.map fun binding => (binding.name, binding.value.resolve root)

theorem arguments_eq_extend (call : Call) (root : Variables) :
    call.arguments root = root.extend (call.bound root) := by
  rw [arguments, bound, Variables.extend, List.foldl_append, List.foldl_map, List.foldl_map]
  cases call.input <;> rfl

theorem Starts.context {config : Config} {lookup : Lookup σ} {root : Variables} {call : Call}
    {start : Start σ} (starts : call.Starts config lookup root start) :
    start.context = ⟨root.extend (call.bound root), config⟩ := by
  obtain ⟨found, -, rfl⟩ := starts
  rw [← arguments_eq_extend]
  rfl

end Call

/-- The function that is started as the k-th belongs to the k-th call. -/
theorem Config.context_of_started {config : Config} {lookup : Lookup σ} {vars : Variables}
    {blocks : List Block} {world : World σ} {k : Nat} {start : Start σ}
    (hstart : (config.started lookup vars blocks world)[k]? = some start) :
    ∃ call, (blocks.filterMap Block.call?)[k]? = some call ∧
      start.context = ⟨(config.seed vars).extend (call.bound (config.seed vars)), config⟩ := by
  obtain ⟨result, starts, next, ends⟩ :=
    Block.exists_ends config lookup (config.seed vars) world blocks
  rw [ends.started] at hstart
  obtain ⟨calls, hfirst, hstarts⟩ := ends.forall_starts
  obtain ⟨hk, rfl⟩ := List.getElem?_eq_some_iff.mp hstart
  have hcalls : k < calls.length := hstarts.length_eq ▸ hk
  refine ⟨calls[k], ?_, (hstarts.get hcalls hk).context⟩
  rw [hfirst.getElem hcalls]
  exact List.getElem?_eq_getElem (hcalls.trans_le hfirst.length_le)

/-! ## Variables in memory -/

/-- Cells that hold variables, each at an address. -/
abbrev Memory := List Variables

namespace Memory

def read (memory : Memory) (address : Nat) : Variables := memory.getD address .empty

def write (memory : Memory) (address : Nat) (vars : Variables) : Memory := memory.set address vars

theorem read_new (memory : Memory) (vars : Variables) :
    (memory ++ [vars]).read memory.length = vars := by
  rw [read, List.getD_eq_getElem?_getD, List.getElem?_concat_length, Option.getD_some]

theorem write_new (memory : Memory) (vars other : Variables) :
    (memory ++ [vars]).write memory.length other = memory ++ [other] := by
  rw [write, List.set_append_right _ _ le_rfl, Nat.sub_self, List.set_cons_zero]

/-- Renders blocks with the root in memory, which is read afresh for each of them. -/
def renderAll (config : Config) (lookup : Lookup (σ × Memory)) (address : Nat) :
    List Block → World (σ × Memory) → Except RenderError Text × World (σ × Memory)
  | [], world => (.ok [], world)
  | block :: rest, world =>
    match block.render config lookup (world.shared.2.read address) world with
    | (.error error, world) => (.error error, world)
    | (.ok first, world) =>
      match renderAll config lookup address rest world with
      | (.error error, world) => (.error error, world)
      | (.ok last, world) => (.ok (first ++ last), world)

/-- Renders blocks with the caller's variables in memory: a new cell holds the root. -/
def render (config : Config) (lookup : Lookup (σ × Memory)) (caller : Nat) (blocks : List Block)
    (world : World (σ × Memory)) : Except RenderError Text × World (σ × Memory) :=
  let memory := world.shared.2
  renderAll config lookup memory.length blocks
    { world with shared := (world.shared.1, memory ++ [config.seed (memory.read caller)]) }

end Memory

/-- A world with something beside the state that functions share. -/
def World.beside {α : Type} (world : World σ) (extra : α) : World (σ × α) where
  shared := (world.shared, extra)
  cancelled := world.cancelled
  log := world.log

/-- The course of a call that reads and writes variables of its own, as seen by others: from one
request to the next it keeps its variables to itself. -/
def Task.owning : Task (σ × Variables) → Variables → Task σ
  | .finish result, _ => .finish result
  | .load next, vars => .load fun shared => (next (shared, vars)).owning vars
  | .store state next, _ => .store state.1 (next.owning state.2)
  | .cancelRender next, vars => .cancelRender (next.owning vars)
  | .cancelCall next, vars => .cancelCall (next.owning vars)
  | .isCancelled next, vars => .isCancelled fun cancelled => (next cancelled).owning vars
  | .pause next, vars => .pause (next.owning vars)
  | .awaitCancel next, vars => .awaitCancel (next.owning vars)

/-- The same course of a call with its variables in a cell of the memory. -/
def Task.inCell (address : Nat) : Task (σ × Variables) → Task (σ × Memory)
  | .finish result => .finish result
  | .load next => .load fun shared =>
      (next (shared.1, shared.2.read address)).inCell address
  | .store state next => .load fun shared =>
      .store (state.1, shared.2.write address state.2) (next.inCell address)
  | .cancelRender next => .cancelRender (next.inCell address)
  | .cancelCall next => .cancelCall (next.inCell address)
  | .isCancelled next => .isCancelled fun cancelled => (next cancelled).inCell address
  | .pause next => .pause (next.inCell address)
  | .awaitCancel next => .awaitCancel (next.inCell address)

/-- A function that reads and writes its variables as it goes. -/
structure Routine (σ : Type) where
  name : Text
  description : Text
  body : Config → Task (σ × Variables)

/-- A routine whose variables start as those it is called with and stay its own. -/
def Routine.owned (routine : Routine σ) : Function σ where
  name := routine.name
  description := routine.description
  invoke context := (routine.body context.config).owning context.vars

/-- A routine whose variables lie in a new cell, which starts as what it is called with. -/
def Routine.inMemory (routine : Routine σ) : Function (σ × Memory) where
  name := routine.name
  description := routine.description
  invoke context := .load fun shared =>
    .store (shared.1, shared.2 ++ [context.vars])
      ((routine.body context.config).inCell shared.2.length)

/-- A routine that was found, the plugin that owns it and the later ones that have one of that
name too. -/
structure Routine.Found (σ : Type) where
  owner : Text
  routine : Routine σ
  others : List Text

def Routine.Found.owned (found : Routine.Found σ) : Match σ :=
  ⟨found.owner, found.routine.owned, found.others⟩

def Routine.Found.inMemory (found : Routine.Found σ) : Match (σ × Memory) :=
  ⟨found.owner, found.routine.inMemory, found.others⟩

/-- A way to find routines, with or without the name of a plugin. -/
abbrev Routines (σ : Type) : Type := Option Text → Text → Option (Routine.Found σ)

def Routines.owned (routines : Routines σ) : Lookup σ := fun plugin name =>
  (routines plugin name).map Routine.Found.owned

def Routines.inMemory (routines : Routines σ) : Lookup (σ × Memory) := fun plugin name =>
  (routines plugin name).map Routine.Found.inMemory

/-! ## Rendering in memory -/

/-- A call with its variables in the last cell does what it does with variables of its own, and
leaves the other cells alone. -/
theorem Task.run_inCell (aside : Bool) (task : Task (σ × Variables)) (world : World σ)
    (memory : Memory) (vars : Variables) :
    ∃ last, (task.inCell memory.length).run aside (world.beside (memory ++ [vars])) =
      (((task.owning vars).run aside world).1,
        ((task.owning vars).run aside world).2.beside (memory ++ [last])) := by
  -- what the cell holds at each moment is what the call has for its variables then
  induction task generalizing aside world vars with
  | finish result => exact ⟨vars, rfl⟩
  | load next ih =>
      simp only [inCell, owning, run, World.beside, Memory.read_new]
      exact ih (world.shared, vars) aside world vars
  | store state next ih =>
      simp only [inCell, owning, run, World.beside, Memory.write_new]
      exact ih aside { world with shared := state.1 } state.2
  | cancelRender next ih => exact ih aside { world with cancelled := true } vars
  | cancelCall next ih => exact ih true world vars
  | isCancelled next ih => exact ih (aside || world.cancelled) aside world vars
  | pause next ih =>
      simp only [inCell, owning, run, World.beside]
      split
      next => exact ⟨vars, rfl⟩
      next => exact ih aside world vars
  | awaitCancel next ih =>
      simp only [inCell, owning, run, World.beside]
      split
      next => exact ih aside world vars
      next => exact ⟨vars, rfl⟩

section

variable {config : Config} {routines : Routines σ} {root : Variables}

theorem Call.course_inMemory {call : Call} {found : Routine.Found σ} {world next : World σ}
    {result : Option (Except Failure Text)}
    (hcourse : call.course config root found.owned world = (result, next)) (memory : Memory) :
    ∃ last, call.course config root found.inMemory (world.beside memory) =
      (result, next.beside (memory ++ [last])) := by
  obtain ⟨last, hrun⟩ := Task.run_inCell false (found.routine.body config)
    (call.announced root found.owned world) memory (call.arguments root)
  have howned : ((found.routine.body config).owning (call.arguments root)).run false
      (call.announced root found.owned world) = (result, next) := hcourse
  rw [howned] at hrun
  exact ⟨last, hrun⟩

theorem Routines.exists_of_owned {plugin : Option Text} {name : Text} {found : Match σ}
    (hfound : routines.owned plugin name = some found) :
    ∃ offer : Routine.Found σ, found = offer.owned ∧
      routines.inMemory plugin name = some offer.inMemory := by
  obtain ⟨offer, hoffer, rfl⟩ := Option.map_eq_some_iff.mp hfound
  exact ⟨offer, rfl, Option.map_eq_some_iff.mpr ⟨offer, hoffer, rfl⟩⟩

theorem Routines.inMemory_eq_none {plugin : Option Text} {name : Text}
    (hnone : routines.owned plugin name = none) : routines.inMemory plugin name = none :=
  Option.map_eq_none_iff.mpr (Option.map_eq_none_iff.mp hnone)

/-- A block in memory comes to the same, and there is one more cell if it started a function. -/
theorem Block.Renders.inMemory {world next : World σ} {block : Block}
    {result : Except RenderError Text} {starts : List (Start σ)}
    (renders : Block.Renders config routines.owned root world block result starts next)
    (memory : Memory) :
    ∃ (cells : List Variables) (more : List (Start (σ × Memory))),
      cells.length = starts.length ∧
        Block.Renders config routines.inMemory root (world.beside memory) block result more
          (next.beside (memory ++ cells)) := by
  have hsame := (List.append_nil memory).symm
  cases renders with
  | text content => exact ⟨[], [], rfl, hsame ▸ .text _ content⟩
  | var name => exact ⟨[], [], rfl, hsame ▸ .var _ name⟩
  | literal literal => exact ⟨[], [], rfl, hsame ▸ .literal _ literal⟩
  | binding binding => exact ⟨[], [], rfl, hsame ▸ .binding _ binding⟩
  | function ref => exact ⟨[], [], rfl, hsame ▸ .function _ ref⟩
  | cancelled hcancelled => exact ⟨[], [], rfl, hsame ▸ .cancelled hcancelled⟩
  | notFound hlive hnone =>
      exact ⟨[], [], rfl, hsame ▸ .notFound hlive (Routines.inMemory_eq_none hnone)⟩
  | returned hlive hfound hcourse =>
      obtain ⟨offer, rfl, hoffer⟩ := Routines.exists_of_owned hfound
      obtain ⟨last, hcell⟩ := Call.course_inMemory hcourse memory
      exact ⟨[last], _, rfl, .returned hlive hoffer hcell⟩
  | failed hlive hfound hcourse =>
      obtain ⟨offer, rfl, hoffer⟩ := Routines.exists_of_owned hfound
      obtain ⟨last, hcell⟩ := Call.course_inMemory hcourse memory
      have hlive : (world.beside memory).cancelled = false := hlive
      exact ⟨[last], _, rfl, Renders.failed hlive hoffer hcell⟩
  | interrupted hlive hfound hcourse =>
      obtain ⟨offer, rfl, hoffer⟩ := Routines.exists_of_owned hfound
      obtain ⟨last, hcell⟩ := Call.course_inMemory hcourse memory
      have hlive : (world.beside memory).cancelled = false := hlive
      exact ⟨[last], _, rfl, Renders.interrupted hlive hoffer hcell⟩

/-- Blocks in memory end as they do without, while the root stays in its cell. -/
theorem Memory.exists_renderAll (config : Config) (routines : Routines σ) (blocks : List Block)
    (world : World σ) (memory : Memory) {address : Nat} (hroot : memory[address]? = some root) :
    ∃ (result : Except RenderError Text) (starts : List (Start σ)) (next : World σ)
      (cells : List Variables),
      Block.Ends config routines.owned root world blocks result starts next ∧
        cells.length = starts.length ∧
        renderAll config routines.inMemory address blocks (world.beside memory) =
          (result, next.beside (memory ++ cells)) := by
  induction blocks generalizing world memory with
  | nil =>
      refine ⟨_, _, _, [], .completed (.nil world), rfl, ?_⟩
      rw [List.append_nil]
      rfl
  | cons block rest ih =>
      have hread : (world.beside memory).shared.2.read address = root := by
        change memory.getD address .empty = root
        rw [List.getD_eq_getElem?_getD, hroot, Option.getD_some]
      obtain ⟨result, starts, middle, hblock⟩ :=
        Block.exists_renders config routines.owned root world block
      obtain ⟨cells, _, hcells, hinMemory⟩ := hblock.inMemory memory
      cases result with
      | error error =>
          refine ⟨_, _, _, cells, .stopped (.nil world) hblock, hcells, ?_⟩
          rw [renderAll, hread, hinMemory.render]
      | ok output =>
          -- the root is below the cells that the block added
          have hkept : (memory ++ cells)[address]? = some root := by
            rw [List.getElem?_append_left (List.getElem?_eq_some_iff.mp hroot).1, hroot]
          obtain ⟨result, more, next, further, hrest, hfurther, hrun⟩ := ih middle _ hkept
          refine ⟨_, _, _, cells ++ further, .cons hblock hrest, ?_, ?_⟩
          · rw [List.length_append, List.length_append, hcells, hfurther]
          · rw [renderAll, hread, hinMemory.render]
            dsimp only
            rw [hrun, List.append_assoc]
            cases result <;> rfl

/-- Rendering in memory does what rendering does. It adds a cell for the root and one for each
function that it starts, and changes no other. -/
theorem Memory.exists_render (config : Config) (routines : Routines σ) (caller : Nat)
    (blocks : List Block) (world : World σ) (memory : Memory) :
    ∃ cells : List Variables,
      cells.length =
          (config.started routines.owned (memory.read caller) blocks world).length ∧
        render config routines.inMemory caller blocks (world.beside memory) =
          ((config.render routines.owned (memory.read caller) blocks world).1,
            (config.render routines.owned (memory.read caller) blocks world).2.beside
              (memory ++ config.seed (memory.read caller) :: cells)) := by
  obtain ⟨result, starts, next, cells, ends, hcells, hrun⟩ :=
    exists_renderAll config routines blocks world
      (memory ++ [config.seed (memory.read caller)]) List.getElem?_concat_length
  obtain ⟨hrender, hstarted⟩ := Config.render_iff_ends.mpr ends
  refine ⟨cells, hstarted ▸ hcells, ?_⟩
  rw [hrender, List.append_cons]
  exact hrun

end

/-! ## Renderings -/

/-- What the k-th function of a rendering is called with is the root with the arguments of the
k-th call written over it, each of them as the root has it: the same for all ways to find
functions, all worlds, and whatever the functions before it did. Variables come to what the root
has for them, wherever they stand. With all variables in memory, where a function may write to its
own as it goes, a rendering comes to the same, and however it ends it leaves the variables of the
caller as they were, and the root as it was made at the start. -/
theorem calls_isolated :
    (∀ (config : Config) (vars : Variables) (blocks : List Block),
      (∀ (σ : Type) (lookup : Lookup σ) (world : World σ) (k : Nat) (start : Start σ),
        (config.started lookup vars blocks world)[k]? = some start →
          ∃ call, (blocks.filterMap Block.call?)[k]? = some call ∧
            start.context =
              ⟨(config.seed vars).extend (call.bound (config.seed vars)), config⟩) ∧
      (∀ (σ τ : Type) (lookup : Lookup σ) (other : Lookup τ) (world : World σ) (second : World τ)
          (k : Nat) (start : Start σ) (later : Start τ),
        (config.started lookup vars blocks world)[k]? = some start →
          (config.started other vars blocks second)[k]? = some later →
            start.context = later.context) ∧
      ∀ (σ : Type) (lookup : Lookup σ) (world middle : World σ) (text name : Text)
          (after : List Block),
        config.render lookup vars blocks world = (.ok text, middle) →
          config.render lookup vars (blocks ++ .var name :: after) world =
            let rest := config.render lookup vars after
              (middle.report (Event.ofRead (config.seed vars) name))
            (rest.1.map (text ++ ((config.seed vars).get? name).getD [] ++ ·), rest.2)) ∧
    (∀ (σ : Type) (template : Template) (lookup : Lookup σ) (vars : Variables) (world : World σ)
        (k : Nat) (start : Start σ),
      (template.started lookup vars world)[k]? = some start →
        ∃ blocks call, template.blocks = .ok blocks ∧
          (blocks.filterMap Block.call?)[k]? = some call ∧
          start.context = ⟨(template.config.seed vars).extend
            (call.bound (template.config.seed vars)), template.config⟩) ∧
    ∀ (σ : Type) (config : Config) (routines : Routines σ) (caller : Nat) (blocks : List Block)
        (world : World σ) (memory : Memory),
      ∃ cells : List Variables,
        cells.length =
            (config.started routines.owned (memory.read caller) blocks world).length ∧
          Memory.render config routines.inMemory caller blocks (world.beside memory) =
            ((config.render routines.owned (memory.read caller) blocks world).1,
              (config.render routines.owned (memory.read caller) blocks world).2.beside
                (memory ++ config.seed (memory.read caller) :: cells)) := by
  refine ⟨fun config vars blocks => ⟨?_, ?_, ?_⟩, ?_, ?_⟩
  · intro σ lookup world k start hstart
    exact Config.context_of_started hstart
  · intro σ τ lookup other world second k start later hstart hlater
    obtain ⟨call, hcall, hcontext⟩ := Config.context_of_started hstart
    obtain ⟨same, hsame, hlast⟩ := Config.context_of_started hlater
    cases Option.some.inj (hcall.symm.trans hsame)
    rw [hcontext, hlast]
  · intro σ lookup world middle text name after hbefore
    have hname : config.render lookup vars (blocks ++ [.var name]) world =
        (.ok (text ++ ((config.seed vars).get? name).getD []),
          middle.report (Event.ofRead (config.seed vars) name)) := by
      rw [Config.render_append hbefore, Config.render, Block.renderAll]
      exact congrArg (fun output => (Except.ok (text ++ output), _)) (List.append_nil _)
    rw [List.append_cons]
    exact Config.render_append hname after
  · intro σ template lookup vars world k start hstart
    rw [Template.started_eq] at hstart
    split at hstart
    next => cases hstart
    next blocks hblocks =>
      obtain ⟨call, hcall, hcontext⟩ := Config.context_of_started hstart
      exact ⟨blocks, call, hblocks, hcall, hcontext⟩
  · intro σ config routines caller blocks world memory
    exact Memory.exists_render config routines caller blocks world memory

/-- A routine that answers with its input, and then writes over it and erases a variable. -/
def Routine.scribbling : Routine Unit where
  name := ['f']
  description := []
  body _ := .load fun shared =>
    .store ((), (shared.2.setInput ['!']).erase ['y']) (.finish (.ok shared.2.input))

/-- The template `{{f}}$y{{f $y}}` with `input` and `y` set: both calls and the variable see what
the caller has set, and the two functions leave their own cells behind. -/
theorem calls_isolated_scribbling :
    ∃ (config : Config) (vars : Variables) (routines : Routines Unit) (blocks : List Block)
      (world : World Unit) (later : Start Unit) (cells : List Variables),
      vars.toList = [(Variables.inputName, ['a']), (['y'], ['b'])] ∧
      blocks = [.call ['f'] ⟨⟨none, ['f']⟩, none, []⟩, .var ['y'],
        .call ['f', ' ', '$', 'y'] ⟨⟨none, ['f']⟩, some (.var ['y']), []⟩] ∧
      (config.render routines.owned vars blocks world).1 = .ok ['a', 'b', 'b'] ∧
      (config.started routines.owned vars blocks world)[1]? = some later ∧
      (∃ call, (blocks.filterMap Block.call?)[1]? = some call ∧
        later.context = ⟨(config.seed vars).extend (call.bound (config.seed vars)), config⟩) ∧
      (Memory.render config routines.inMemory 0 blocks (world.beside [vars])).2.shared.2 =
        vars :: config.seed vars :: cells ∧
      cells.map Variables.toList =
        [[(Variables.inputName, ['!'])], [(Variables.inputName, ['!'])]] := by
  obtain ⟨hruns, -, hmemory⟩ := calls_isolated
  let vars : Variables := .ofList [(Variables.inputName, ['a']), (['y'], ['b'])]
  let routines : Routines Unit := fun _ _ => some ⟨[], .scribbling, []⟩
  let blocks : List Block := [.call ['f'] ⟨⟨none, ['f']⟩, none, []⟩, .var ['y'],
    .call ['f', ' ', '$', 'y'] ⟨⟨none, ['f']⟩, some (.var ['y']), []⟩]
  let world : World Unit := ⟨(), false, []⟩
  obtain ⟨cells, -, hcells⟩ := hmemory Unit .standard routines 0 blocks world [vars]
  have hmemory := congrArg (fun outcome => outcome.2.shared.2) hcells
  have hlater : (Config.standard.started routines.owned vars blocks world)[1]? = some _ := rfl
  refine ⟨.standard, vars, routines, blocks, world, _, cells, rfl, rfl, rfl, hlater,
    (hruns .standard vars blocks).1 Unit routines.owned world 1 _ hlater, hmemory, ?_⟩
  have hlast := congrArg (fun memory => (memory.drop 2).map Variables.toList) hmemory
  exact hlast.symm.trans rfl

end Stencil
