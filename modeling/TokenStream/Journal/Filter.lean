import TokenStream.Journal.Event

namespace TokenStream.Journal

/-- A level for all events and, where given, another one for those of the lexer. -/
structure Levels where
  overall : Level
  lexer : Option Level
deriving Repr, DecidableEq

def Levels.standard : Levels :=
  { overall := .warn, lexer := none }

/-- The parts of the program that levels are set for. -/
inductive Phase where
  | lexer
  | program
deriving Repr, DecidableEq

namespace Phase

def name : Phase → String
  | .lexer => "lexer"
  | .program => "cli"

def target (phase : Phase) : String :=
  "toklex::" ++ phase.name

@[simp]
theorem target_lexer : lexer.target = lexerTarget := by decide

@[simp]
theorem target_program : program.target = programTarget := by decide

end Phase

/-- The level set for a target: the lexer's own target may have its own. -/
def Levels.levelFor (levels : Levels) (target : String) : Level :=
  if target = Phase.lexer.target then levels.lexer.getD levels.overall else levels.overall

/-- A level for the targets that start with one of the given texts, and one for all others. -/
structure Filter where
  fallback : Level
  targets : List (String × Level)
deriving Repr, DecidableEq

namespace Filter

def matching (filter : Filter) (target : String) : List (String × Level) :=
  filter.targets.filter fun (start, _) => start.toList.isPrefixOf target.toList

/-- The level of the longest entry that the target starts with, or the fallback. -/
def levelOf (filter : Filter) (target : String) : Level :=
  (filter.matching target).foldl longer ([], filter.fallback) |>.2
where
  longer (best : List Char × Level) (entry : String × Level) : List Char × Level :=
    if best.1.length ≤ entry.1.toList.length then (entry.1.toList, entry.2) else best

def enables (filter : Filter) (target : String) (level : Level) : Bool :=
  (filter.levelOf target).records level

/-- The filter for the lexer's and the program's targets and everything that starts like them. -/
def ofLevels (levels : Levels) : Filter :=
  { fallback := levels.overall
    targets := [Phase.lexer, Phase.program].map fun phase =>
      (phase.target, levels.levelFor phase.target) }

def select (filter : Filter) (events : List Event) : List Event :=
  events.filter fun event => filter.enables event.target event.level

end Filter

end TokenStream.Journal
