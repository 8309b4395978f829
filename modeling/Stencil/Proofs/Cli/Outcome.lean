import Stencil.Cli.Run
import Stencil.Proofs.Rendering.TextOnly
import Stencil.Proofs.Template.Parameters

/-! # What comes of a command

A command writes all of its output or nothing. It fails at the first thing that goes wrong: the
template is read before the configuration, both before the template is cut into blocks, and the
blocks before any of them is rendered. With the text plugin alone one more thing can go wrong then,
a call of a function that the plugin does not have; so there is a short list of all failures.
-/

namespace Stencil

/-- The extension of the files that are in a format. -/
def Format.extension : Format → Text
  | json => "json".toList
  | toml => "toml".toList

namespace Config

variable {format : Format} {path content : Text}

theorem ofFile_of_extension (hextension : Path.extension? path = some format.extension) :
    ofFile path (some content) = ofText format content := by
  cases format with
  | json => rw [ofFile, hextension]; rfl
  | toml => rw [ofFile, hextension]; rfl

theorem ofFile_of_unsupported
    (hextension : ∀ format : Format, Path.extension? path ≠ some format.extension) :
    ofFile path (some content) =
      .error (.unsupported ((Path.extension? path).getD []) path) := by
  have hjson : Path.extension? path ≠ some "json".toList := hextension .json
  have htoml : Path.extension? path ≠ some "toml".toList := hextension .toml
  simp only [ofFile, if_neg hjson, if_neg htoml]

theorem ofText_eq_ok_or_illFormed (format : Format) (content : Text) :
    (∃ config, ofText format content = .ok config) ∨ ofText format content = .error .illFormed := by
  unfold ofText
  dsimp only
  split
  next config _ => exact .inl ⟨config, rfl⟩
  next => exact .inr rfl

end Config

namespace Cli

/-! ## What a command finds -/

/-- The text of a template: that of the standard input for a hyphen, and else that of a file. -/
inductive Environment.Gives (environment : Environment) : Text → Text → Prop where
  | input {text : Text} (hinput : environment.input = some text) : Gives environment ['-'] text
  | file {path text : Text} (hpath : path ≠ ['-']) (hfile : environment.file path = some text) :
      Gives environment path text

/-- The configuration of a command: the one in its file, or the standard one. -/
inductive Environment.Configures (environment : Environment) : Option Text → Config → Prop where
  | standard : Configures environment none .standard
  | file {path content : Text} {format : Format} {config : Config}
      (hfile : environment.file path = some content)
      (hextension : Path.extension? path = some format.extension)
      (hconfig : Config.ofText format content = .ok config) :
      Configures environment (some path) config

/-- The template that a command works on, with its configuration. -/
structure Command.Finds (environment : Environment) (command : Command) (template : Template) :
    Prop where
  source : environment.Gives command.template template.source
  config : environment.Configures command.config template.config

/-! ## How it ends -/

/-- The listing that a command makes of blocks. -/
def Command.blockOutput (environment : Environment) (command : Command) (blocks : List Block) :
    Text :=
  match command.format with
  | .text => blockListing (environment.color && !command.plain) blocks
  | .json => valueListing (blocks.map Block.toValue)

/-- The listing that a command makes of parameters. -/
def Command.parameterOutput (environment : Environment) (command : Command)
    (parameters : List Parameter) : Text :=
  match command.format with
  | .text => parameterListing (environment.color && !command.plain) parameters
  | .json => valueListing (parameters.map Parameter.toValue)

/-- What a command writes if nothing goes wrong. -/
inductive Command.Writes (environment : Environment) (command : Command) : Text → Prop where
  | rendered {template : Template} {text : Text} (haction : command.action = .render)
      (finds : command.Finds environment template)
      (htext : template.TextOnly (gather command.assignments command.input) (.ok text)) :
      Writes environment command (text ++ ['\n'])
  | blocks {template : Template} {blocks : List Block} (haction : command.action = .blocks)
      (finds : command.Finds environment template) (hblocks : template.blocks = .ok blocks) :
      Writes environment command (command.blockOutput environment blocks)
  | parameters {template : Template} {parameters : List Parameter}
      (haction : command.action = .params) (finds : command.Finds environment template)
      (hparameters : template.parameters = .ok parameters) :
      Writes environment command (command.parameterOutput environment parameters)

/-- Why a command fails, whichever goes wrong first. -/
inductive Command.Fails (environment : Environment) (command : Command) : CommandError → Prop where
  | noTemplate (hnone : ∀ text, ¬ environment.Gives command.template text) :
      Fails environment command .unreadable
  | noConfig {text path : Text} (hsource : environment.Gives command.template text)
      (hpath : command.config = some path) (hnone : environment.file path = none) :
      Fails environment command (.config .unreadable)
  | unsupported {text path content : Text} (hsource : environment.Gives command.template text)
      (hpath : command.config = some path) (hfile : environment.file path = some content)
      (hextension : ∀ format : Format, Path.extension? path ≠ some format.extension) :
      Fails environment command
        (.config (.unsupported ((Path.extension? path).getD []) path))
  | illFormed {text path content : Text} {format : Format}
      (hsource : environment.Gives command.template text) (hpath : command.config = some path)
      (hfile : environment.file path = some content)
      (hextension : Path.extension? path = some format.extension)
      (hill : ∀ config, Config.ofText format content ≠ .ok config) :
      Fails environment command (.config .illFormed)
  | refused {template : Template} {refusal : Refusal}
      (finds : command.Finds environment template) (hblocks : template.blocks = .error refusal) :
      Fails environment command (.template (.refused refusal))
  | foreign {template : Template} {blocks after : List Block} {content : Text} {call : Call}
      (haction : command.action = .render) (finds : command.Finds environment template)
      (hblocks : template.blocks = .ok blocks)
      (first : First Block.Foreign blocks (.call content call) after) :
      Fails environment command (.template (.render (.functionNotFound call.function)))

variable {environment : Environment} {command : Command} {template : Template}

/-! ### Loading -/

theorem readTemplate_of_gives {source text : Text} (gives : environment.Gives source text) :
    readTemplate environment source = .ok text := by
  cases gives with
  | input hinput => rw [readTemplate, if_pos rfl, hinput]
  | file hpath hfile => rw [readTemplate, if_neg hpath, hfile]

theorem readTemplate_of_forall {source : Text} (hnone : ∀ text, ¬ environment.Gives source text) :
    readTemplate environment source = .error .unreadable := by
  rw [readTemplate]
  by_cases hsource : source = ['-']
  · subst hsource
    rw [if_pos rfl]
    cases hinput : environment.input with
    | none => rfl
    | some text => exact absurd (.input hinput) (hnone text)
  · rw [if_neg hsource]
    cases hfile : environment.file source with
    | none => rfl
    | some text => exact absurd (.file hsource hfile) (hnone text)

theorem readConfig_of_configures {path : Option Text} {config : Config}
    (configures : environment.Configures path config) :
    readConfig environment path = .ok config := by
  cases configures with
  | standard => rfl
  | file hfile hextension hconfig =>
      simp only [readConfig, hfile, Config.ofFile_of_extension hextension, hconfig]
      rfl

theorem loadTemplate_of_finds (finds : command.Finds environment template) :
    loadTemplate environment command = .ok template := by
  rw [loadTemplate, readTemplate_of_gives finds.source, readConfig_of_configures finds.config]
  rfl

/-- A configuration that cannot be had is what a command fails for, once it has its template. -/
theorem output_of_readConfig_eq_error {text : Text} {error : CommandError}
    (hsource : environment.Gives command.template text)
    (hconfig : readConfig environment command.config = .error error) :
    command.output environment = .error error := by
  rw [Command.output, loadTemplate, readTemplate_of_gives hsource, hconfig]
  rfl

/-- What a command does once it has its template. -/
theorem output_of_finds (finds : command.Finds environment template) :
    command.output environment =
      match command.action with
      | .render =>
        ((template.render plugins.lookup (gather command.assignments command.input)
          ⟨(), false, []⟩).1.mapError .template).map (· ++ ['\n'])
      | .blocks =>
        (template.blocks.mapError fun error => .template (.refused error)).map
          (command.blockOutput environment)
      | .params =>
        (template.parameters.mapError fun error => .template (.refused error)).map
          (command.parameterOutput environment) := by
  have hload := loadTemplate_of_finds finds
  cases haction : command.action with
  | render =>
      simp only [Command.output, hload, haction, renderOutput, bind, Except.bind]
      rcases template.render plugins.lookup _ ⟨(), false, []⟩ with ⟨_ | text, world⟩ <;> rfl
  | blocks =>
      simp only [Command.output, hload, haction, bind, Except.bind]
      cases template.blocks <;> rfl
  | params =>
      simp only [Command.output, hload, haction, bind, Except.bind]
      cases template.parameters <;> rfl

theorem parameters_eq_error {refusal : Refusal} (hblocks : template.blocks = .error refusal) :
    template.parameters = .error refusal := by
  rw [Template.parameters, hblocks]
  rfl

/-! ### The two endings -/

theorem Command.Writes.output_eq {output : Text} (writes : command.Writes environment output) :
    command.output environment = .ok output := by
  cases writes with
  | rendered haction finds htext =>
      have hrender := htext.render ⟨(), false, []⟩ rfl
      rw [output_of_finds finds, haction]
      dsimp only
      rw [plugins, hrender]
      rfl
  | blocks haction finds hblocks =>
      rw [output_of_finds finds, haction]
      dsimp only
      rw [hblocks]
      rfl
  | parameters haction finds hparameters =>
      rw [output_of_finds finds, haction]
      dsimp only
      rw [hparameters]
      rfl

theorem Command.Fails.output_eq {error : CommandError} (fails : command.Fails environment error) :
    command.output environment = .error error := by
  cases fails with
  | noTemplate hnone =>
      rw [Command.output, loadTemplate, readTemplate_of_forall hnone]
      rfl
  | noConfig hsource hpath hnone =>
      apply output_of_readConfig_eq_error hsource
      simp only [readConfig, hpath, hnone]
      rfl
  | unsupported hsource hpath hfile hextension =>
      apply output_of_readConfig_eq_error hsource
      simp only [readConfig, hpath, hfile, Config.ofFile_of_unsupported hextension]
      rfl
  | illFormed hsource hpath hfile hextension hill =>
      rcases Config.ofText_eq_ok_or_illFormed _ _ with ⟨config, hconfig⟩ | herror
      · exact absurd hconfig (hill config)
      · apply output_of_readConfig_eq_error hsource
        simp only [readConfig, hpath, hfile, Config.ofFile_of_extension hextension, herror]
        rfl
  | refused finds hblocks =>
      rw [output_of_finds finds]
      cases command.action with
      | render =>
          have htext : Template.TextOnly _ (gather command.assignments command.input) _ :=
            .refused hblocks
          dsimp only
          rw [plugins, htext.render ⟨(), false, []⟩ rfl]
          rfl
      | blocks =>
          dsimp only
          rw [hblocks]
          rfl
      | params =>
          dsimp only
          rw [parameters_eq_error hblocks]
          rfl
  | foreign haction finds hblocks first =>
      have htext : Template.TextOnly _ (gather command.assignments command.input) _ :=
        .foreign hblocks first
      rw [output_of_finds finds, haction]
      dsimp only
      rw [plugins, htext.render ⟨(), false, []⟩ rfl]
      rfl

/-- A command finds what it works on, or fails for the want of it. -/
theorem finds_or_fails (environment : Environment) (command : Command) :
    (∃ template, command.Finds environment template) ∨
      ∃ error, command.Fails environment error := by
  by_cases hgives : ∃ text, environment.Gives command.template text
  · obtain ⟨text, hsource⟩ := hgives
    cases hpath : command.config with
    | none => exact .inl ⟨⟨text, .standard⟩, hsource, hpath ▸ .standard⟩
    | some path =>
        cases hfile : environment.file path with
        | none => exact .inr ⟨_, .noConfig hsource hpath hfile⟩
        | some content =>
            by_cases hextension : ∃ format : Format, Path.extension? path = some format.extension
            · obtain ⟨format, hextension⟩ := hextension
              by_cases hconfig : ∃ config, Config.ofText format content = .ok config
              · obtain ⟨config, hconfig⟩ := hconfig
                exact .inl ⟨⟨text, config⟩, hsource, hpath ▸ .file hfile hextension hconfig⟩
              · exact .inr ⟨_, .illFormed hsource hpath hfile hextension
                  fun config h => hconfig ⟨config, h⟩⟩
            · exact .inr ⟨_, .unsupported hsource hpath hfile
                fun format h => hextension ⟨format, h⟩⟩
  · exact .inr ⟨_, .noTemplate fun text h => hgives ⟨text, h⟩⟩

theorem writes_or_fails (environment : Environment) (command : Command) :
    (∃ output, command.Writes environment output) ∨
      ∃ error, command.Fails environment error := by
  rcases finds_or_fails environment command with ⟨template, finds⟩ | hfails
  · cases hblocks : template.blocks with
    | error refusal => exact .inr ⟨_, .refused finds hblocks⟩
    | ok blocks =>
        cases haction : command.action with
        | blocks => exact .inl ⟨_, .blocks haction finds hblocks⟩
        | params =>
            have hparameters := (Template.parameters_eq_ok.mpr ⟨blocks, hblocks, rfl⟩)
            exact .inl ⟨_, .parameters haction finds hparameters⟩
        | render =>
            obtain ⟨result, htext⟩ :=
              template.exists_textOnly (gather command.assignments command.input)
            cases htext with
            | refused hrefused =>
                rw [hblocks] at hrefused
                cases hrefused
            | foreign hblocks first => exact .inr ⟨_, .foreign haction finds hblocks first⟩
            | rendered hblocks houtputs =>
                exact .inl ⟨_, .rendered haction finds (.rendered hblocks houtputs)⟩
  · exact .inr hfails

theorem run_eq_iff_output_eq_ok {output : Text} :
    command.run environment = ⟨0, output, none⟩ ↔ command.output environment = .ok output := by
  rw [Command.run]
  cases command.output environment with
  | error error => simp
  | ok other => simp

theorem run_eq_iff_output_eq_error {error : CommandError} :
    command.run environment = ⟨2, [], some error⟩ ↔
      command.output environment = .error error := by
  rw [Command.run]
  cases command.output environment with
  | error other => simp
  | ok output => simp

theorem run_eq_iff_writes {output : Text} :
    command.run environment = ⟨0, output, none⟩ ↔ command.Writes environment output := by
  rw [run_eq_iff_output_eq_ok]
  refine ⟨fun h => ?_, Command.Writes.output_eq⟩
  rcases writes_or_fails environment command with ⟨other, writes⟩ | ⟨error, fails⟩
  · rw [writes.output_eq] at h
    cases h
    exact writes
  · rw [fails.output_eq] at h
    cases h

theorem run_eq_iff_fails {error : CommandError} :
    command.run environment = ⟨2, [], some error⟩ ↔ command.Fails environment error := by
  rw [run_eq_iff_output_eq_error]
  refine ⟨fun h => ?_, Command.Fails.output_eq⟩
  rcases writes_or_fails environment command with ⟨output, writes⟩ | ⟨other, fails⟩
  · rw [writes.output_eq] at h
    cases h
  · rw [fails.output_eq] at h
    cases h
    exact fails

theorem not_writes_of_fails {error : CommandError} (fails : command.Fails environment error)
    (output : Text) : ¬ command.Writes environment output := by
  intro writes
  have hfails := fails.output_eq
  rw [writes.output_eq] at hfails
  cases hfails

/-- A listing is written exactly if the template can be had and cut into blocks. -/
theorem exists_writes_iff_of_listing (haction : command.action ≠ .render) :
    (∃ output, command.Writes environment output) ↔
      ∃ template blocks, command.Finds environment template ∧ template.blocks = .ok blocks := by
  constructor
  · rintro ⟨output, writes⟩
    cases writes with
    | rendered hrender _ _ => exact absurd hrender haction
    | blocks _ finds hblocks => exact ⟨_, _, finds, hblocks⟩
    | parameters _ finds hparameters =>
        obtain ⟨blocks, hblocks, -⟩ := Template.parameters_eq_ok.mp hparameters
        exact ⟨_, blocks, finds, hblocks⟩
  · rintro ⟨template, blocks, finds, hblocks⟩
    cases hlisting : command.action with
    | render => exact absurd hlisting haction
    | blocks => exact ⟨_, .blocks hlisting finds hblocks⟩
    | params => exact ⟨_, .parameters hlisting finds
        (Template.parameters_eq_ok.mpr ⟨blocks, hblocks, rfl⟩)⟩

/-- A command ends with exit code 0 and all of its output, or with exit code 2 and none; what it
writes and why it fails is told by the rules of `Command.Writes` and `Command.Fails`. A template is
rendered if it can be had with its configuration, and rendering it with the variables of the command
line and the text plugin comes to a text; that text and a line end are then the output. Neither a
state that functions share nor what was reported before makes a difference. The other commands
fail exactly if the template or its configuration cannot be had or the template is refused. -/
theorem command_all_or_nothing (environment : Environment) (command : Command) :
    ((∃ output, command.run environment = ⟨0, output, none⟩) ∨
      ∃ error, command.run environment = ⟨2, [], some error⟩) ∧
    (∀ output, command.run environment = ⟨0, output, none⟩ ↔
      command.Writes environment output) ∧
    (∀ error, command.run environment = ⟨2, [], some error⟩ ↔
      command.Fails environment error) ∧
    (command.action = .render →
      ∀ (σ : Type) (shared : σ) (log : List Event) (output : Text),
        command.run environment = ⟨0, output, none⟩ ↔
          ∃ template text, command.Finds environment template ∧
            (template.render (Registry.empty.add (.text σ)).lookup
              (gather command.assignments command.input) ⟨shared, false, log⟩).1 = .ok text ∧
            output = text ++ ['\n']) ∧
    (command.action ≠ .render →
      ((command.run environment).exit = 2 ∧ (command.run environment).output = [] ↔
        ¬ ∃ template blocks, command.Finds environment template ∧ template.blocks = .ok blocks) ∧
      ((command.run environment).exit = 0 ↔
        ∃ template blocks, command.Finds environment template ∧
          template.blocks = .ok blocks)) := by
  refine ⟨?_, fun _ => run_eq_iff_writes, fun _ => run_eq_iff_fails, ?_, ?_⟩
  · simp only [run_eq_iff_writes, run_eq_iff_fails]
    exact writes_or_fails environment command
  · intro haction σ shared log output
    simp only [run_eq_iff_writes,
      Template.render_eq_iff_textOnly ⟨shared, false, log⟩ rfl]
    constructor
    · intro writes
      cases writes with
      | rendered _ finds htext => exact ⟨_, _, finds, htext, rfl⟩
      | blocks hother _ _ | parameters hother _ _ =>
          rw [haction] at hother
          cases hother
    · rintro ⟨template, text, finds, htext, rfl⟩
      exact .rendered haction finds htext
  · intro haction
    rw [← exists_writes_iff_of_listing haction]
    rcases writes_or_fails environment command with ⟨output, writes⟩ | ⟨error, fails⟩
    · have hwrites : ∃ output, command.Writes environment output := ⟨output, writes⟩
      rw [run_eq_iff_writes.mpr writes]
      simp [hwrites]
    · have hnone : ¬ ∃ output, command.Writes environment output :=
        fun ⟨output, writes⟩ => not_writes_of_fails fails output writes
      rw [run_eq_iff_fails.mpr fails]
      simp [hnone]

/-- The template `$x: {{text.echo $X}}` is rendered with a variable of the command line. With a call
of `gone` behind it nothing is written, although all that stands in front could be rendered. A
template that is not there is missed before a configuration that cannot be read. -/
theorem command_all_or_nothing_mixed :
    ∃ (environment : Environment) (known unknown listing : Command) (source : Text),
      source = "$x: \x7b\x7btext.echo $X\x7d\x7d".toList ∧
      environment.input = some source ∧
      environment.file ['t'] = some (source ++ "\x7b\x7bgone\x7d\x7d".toList) ∧
      environment.file ['u'] = none ∧
      known.action = .render ∧ known.assignments = [(['x'], ['1'])] ∧
      known.run environment = ⟨0, "1: 1\n".toList, none⟩ ∧
      unknown.action = .render ∧ unknown.template = ['t'] ∧
      unknown.run environment =
        ⟨2, [], some (.template (.render (.functionNotFound ⟨none, "gone".toList⟩)))⟩ ∧
      listing.action = .blocks ∧ listing.template = ['u'] ∧ listing.config = some ['c'] ∧
      ((listing.run environment).exit = 2 ∧ (listing.run environment).output = []) ∧
      listing.run environment = ⟨2, [], some .unreadable⟩ := by
  let source : Text := "$x: \x7b\x7btext.echo $X\x7d\x7d".toList
  let longer : Text := source ++ "\x7b\x7bgone\x7d\x7d".toList
  let environment : Environment :=
    ⟨fun path => if path = ['t'] then some longer else none, some source, false⟩
  let known : Command := ⟨.render, ['-'], [(['x'], ['1'])], none, .text, none, false⟩
  let unknown : Command := ⟨.render, ['t'], [(['x'], ['1'])], none, .text, none, false⟩
  let listing : Command := ⟨.blocks, ['u'], [], none, .text, some ['c'], false⟩
  have hknown : known.Finds environment ⟨source, .standard⟩ := ⟨.input rfl, .standard⟩
  have hunknown : unknown.Finds environment ⟨longer, .standard⟩ :=
    ⟨.file (by decide) rfl, .standard⟩
  let echo : Call := ⟨⟨some "text".toList, "echo".toList⟩, some (.var ['X']), []⟩
  let blocks : List Block :=
    [.var ['x'], .text [':', ' '], .call "text.echo $X".toList echo]
  have hblocks : (Template.mk source .standard).blocks = .ok blocks := by decide +kernel
  let gone : Call := ⟨⟨none, "gone".toList⟩, none, []⟩
  have hlonger : (Template.mk longer .standard).blocks =
      .ok (blocks ++ [.call "gone".toList gone]) := by decide +kernel
  obtain ⟨-, -, -, hrender, -⟩ := command_all_or_nothing environment known
  obtain ⟨-, -, hfails, -⟩ := command_all_or_nothing environment unknown
  obtain ⟨-, -, hmissed, -, hlisting⟩ := command_all_or_nothing environment listing
  have hgives : ∀ text, ¬ environment.Gives ['u'] text := by
    intro text gives
    cases gives with
    | file hpath hfile => cases hfile
  refine ⟨environment, known, unknown, listing, source, rfl, rfl, rfl, rfl, rfl, rfl, ?_, rfl, rfl,
    ?_, rfl, rfl, rfl, ?_, ?_⟩
  · rw [hrender rfl Unit () []]
    refine ⟨⟨source, .standard⟩, "1: 1".toList, hknown, ?_, rfl⟩
    exact (Template.TextOnly.rendered hblocks
      (.cons rfl (.cons rfl (.cons rfl .nil)))).render ⟨(), false, []⟩ rfl
  · have hfound : ∀ block ∈ blocks, block.textOnly? .empty ≠ none := by decide +kernel
    have first : First Block.Foreign (blocks ++ [.call "gone".toList gone])
        (.call "gone".toList gone) [] := by
      refine ⟨⟨gone, rfl, rfl⟩, blocks, rfl, fun block hmem hforeign => ?_⟩
      exact hfound block hmem (Block.textOnly?_eq_none_iff.mpr hforeign)
    exact (hfails _).mpr (.foreign rfl hunknown hlonger first)
  · refine (hlisting (by decide)).1.mpr ?_
    rintro ⟨template, blocks, finds, -⟩
    exact hgives _ finds.source
  · exact (hmissed _).mpr (.noTemplate hgives)

end Cli

end Stencil
