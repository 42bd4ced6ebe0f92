import LoxTokens.Reporter
import LoxTokens.Run.Outcome
import LoxTokens.Scan.InPlace

/-!
# Script runs

A script is decoded as a whole before anything is printed. Its tokens are listed whether or not there
are diagnostics; the diagnostics only show in the exit status and on the second stream. Where lines
run out of numbers, it depends on how the program was built whether it goes on from zero or is broken
off by its runtime. A run that is broken off has shown what was said until then, and has listed
nothing, since tokens are listed when the scan is over. What the runtime writes behind that is not
for the program to say.
-/

namespace LoxTokens

/-- How a program is built. -/
structure Build where
  counting : InPlace.Counting
  /-- What the runtime writes when it breaks off a run over a source. -/
  lastWords : Text → Text

namespace Build

def release : Build :=
  ⟨.wrapping, fun _ => []⟩

def debug (lastWords : Text → Text) : Build :=
  ⟨.checked, lastWords⟩

end Build

namespace Run

/-- The token listing of a source: an entry for every token, each ended by a line feed. -/
def listing (source : Text) : Text :=
  (Scan.tokens source).flatMap fun t => t.listing ++ ['\n']

/-- What is shown while a source is scanned. -/
def notices (filter : Log.Filter) (source : Text) : List Notice :=
  (Scan.emissions source).filterMap (Notice.ofEmission? filter)

/-- The reporter of a run before anything was reported. -/
def freshReporter : Reporter :=
  .console false

/-- A run whose scan has come to its end. -/
def ofResult (filter : Log.Filter) (result : InPlace.Result) : Outcome :=
  { stdout := result.tokens.flatMap fun t => t.listing ++ ['\n']
    notices := result.emissions.filterMap (Notice.ofEmission? filter)
    status :=
      if (freshReporter.hear result.emissions).hadError then .lexicalErrors else .success }

/-- A run that is broken off when so much has been said. -/
def brokenOff (filter : Log.Filter) (said : List Emission) (lastWords : Text) : Outcome :=
  ⟨[], said.filterMap (Notice.ofEmission? filter) ++ [.lastWords lastWords], .aborted⟩

/-- A run over a source text by a program that is built in some way. -/
def ofTextBy (b : Build) (filter : Log.Filter) (source : Text) : Outcome :=
  match InPlace.scanCounting b.counting (.ofList source) with
  | .ok result => ofResult filter result
  | .error _ =>
      let halted := InPlace.State.initial.halt b.counting (.ofList source)
      brokenOff filter halted.said.reverse (b.lastWords source)

/-- A run over the bytes of a script by a program that is built in some way. -/
def scriptBy (b : Build) (filter : Log.Filter) (bytes : Bytes) : Outcome :=
  match Utf8.decode bytes with
  | .ok source => ofTextBy b filter source
  | .error fault => .broken [] (.undecodable bytes fault)

/-- A run over the bytes of a script by the program as it is released. -/
def script (filter : Log.Filter) (bytes : Bytes) : Outcome :=
  scriptBy .release filter bytes

end Run

end LoxTokens
