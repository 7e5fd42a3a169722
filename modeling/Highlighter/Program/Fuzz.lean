import Highlighter.Check
import Highlighter.Json.Basic
import Highlighter.Program.Host
import Highlighter.Sample.Text

/-!
# The program that checks samples

Checks one text, or the texts of a folder and then random samples of every built-in language. A
text of the folder may have its output beside it, in a file of the same name with `.html` behind
it.
-/

namespace Highlighter.Program.Fuzz

variable {m : Type → Type} [Monad m] [Host m]

/-- Writes a line to the error output. -/
def tell (line : String) : Program m Unit := (Host.note (line ++ "\n") : m Unit)

/-- The text of a file. -/
def readText (p : Path) : Program m String := do
  let headline := "reading " ++ p.shown
  let bytes ← orReport headline (Host.contentAt p)
  match Utf8.toString? bytes with
  | some text => return text
  | none => throw ⟨headline, [FileError.notText.message]⟩

/-- The language of a path, or another one if its extension tells none. -/
def languageOf (p : Path) (fallback : String) : String :=
  ((Registry.builtin.forPath? p).map (·.name)).getD fallback

/-- Checks the text of one file again. -/
def replay (p : Path) (language : String) : Program m Unit := do
  tell ("[replay] " ++ p.shown ++ " as " ++ language)
  let source ← readText p
  match Registry.builtin.check source language with
  | none => tell "[replay] OK"
  | some fault => throw (.because ("[replay] " ++ fault.message))

/-- The ending of a file that holds the output for another file. -/
def outputEnding : String := ".html"

/-- The example files of a folder, in order: every file that has an extension, outputs left out. A
folder that cannot be listed has none, and names that cannot be read are left out. -/
def examples (folder : Path) : m (List Path) := do
  match ← Host.listFolder folder with
  | .error _ => return []
  | .ok listing =>
    let sources := (listing.filterMap (·.toOption)).filter fun n =>
      (Path.extensionOf? n).any (· != Utf8.ofString "html")
    let paths := (sources.mergeSort fun a b => a ≤ b).map folder.join
    paths.filterM Host.isFile

/-- Compares the output for an example with the one beside it. True if they agree, or if there is
none. -/
def compareOutput (p : Path) (source language : String) : Program m Bool := do
  let beside := p.append outputEnding
  if ← (Host.isPresent beside : m Bool) then
    let want ← readText beside
    let got := Registry.builtin.highlight source language
    if got = want then return true
    else
      let place := divergence got want
      tell ("[golden] " ++ beside.shown ++ " mismatch at byte " ++ toString place ++ ":" ++
        shownApart got want place)
      return false
  else
    tell ("[golden] no sidecar for " ++ p.shown)
    return true

/-- Checks one example. True if nothing is wrong with it. -/
def runExample (fallback : String) (p : Path) : Program m Bool := do
  let source ← readText p
  let language := languageOf p fallback
  let fault := Registry.builtin.check source language
  if let some fault := fault then
    tell ("[ex] " ++ p.shown ++ " (" ++ language ++ "): " ++ fault.message)
  return (← compareOutput p source language) && fault.isNone

/-- Checks the examples of a folder, if there are any. -/
def runExamples (folder : Path) (fallback : String) : Program m Unit := do
  let paths ← (examples folder : m (List Path))
  if !paths.isEmpty then
    tell ("[ex] running " ++ toString paths.length ++ " handcrafted example(s)…")
    let good ← paths.mapM (runExample fallback)
    if !good.all id then throw (.because "handcrafted examples failed")

/-- The seed of one sample. Samples of one language have different seeds in a run. -/
def caseSeed (seed iteration : UInt64) : UInt64 := seed ^^^ (iteration * SplitMix.increment)

/-- What a run is asked for. -/
structure Plan where
  length : Nat
  iterations : Nat
  seed : Nat
  save : Bool
  folder : Path

/-- The plan of an environment. -/
def Plan.ofEnvironment (env : Environment) : Plan where
  length := env.number "FUZZ_LEN" 100000
  iterations := env.number "FUZZ_ITERS" 3
  seed := env.number "FUZZ_SEED" 42
  save := env.flag "FUZZ_SAVE" false
  folder := Path.ofString ((env.text? "FUZZ_DIR").getD "fuzz-cases")

/-- A sample that was not kept. -/
structure Failure where
  language : String
  iteration : Nat
  source : String
  fault : Fault

/-- The seed of a sample of a plan. -/
def Plan.seedOf (plan : Plan) (iteration : Nat) : UInt64 :=
  caseSeed plan.seed.toUInt64 iteration.toUInt64

/-- Checks one sample, which is drawn from the stream `SplitMix` that its seed starts. What a seed gives
depends on the stream: a program that draws its words from another kind of stream makes another sample of
a saved seed. -/
def Plan.tryCase (plan : Plan) (language : String) (iteration : Nat) : Option Failure := do
  let draw : Draw SplitMix (Option String) :=
    Sample.text (Sample.enoughRounds plan.length) language plan.length
  let source ← (draw.run ⟨plan.seedOf iteration⟩).1
  let fault ← Registry.builtin.check source language
  return ⟨language, iteration, source, fault⟩

/-- The samples of a plan: some iterations for each language. -/
def Plan.cases (plan : Plan) : List (String × Nat) :=
  Registry.builtin.names.flatMap fun l => (List.range plan.iterations).map (l, ·)

/-- The path that a failure is saved to. -/
def Plan.pathOf (plan : Plan) (f : Failure) : Path :=
  let stem := f.language.toList.map fun c => if c.isAlphanum then c else '_'
  plan.folder.join (Utf8.ofString ("case_" ++ String.ofList stem ++ "_s" ++
    toString (plan.seedOf f.iteration).toNat ++ "_i" ++ toString f.iteration ++ "_n" ++
    toString f.source.utf8ByteSize))

/-- What is saved beside a failure. -/
def Plan.record (plan : Plan) (f : Failure) (time : Nat) : Json String :=
  .record [
    ("unix_ts", .nat time),
    ("language", .text f.language),
    ("case_seed", .nat (plan.seedOf f.iteration).toNat),
    ("iter", .nat f.iteration),
    ("target_len", .nat plan.length),
    ("actual_bytes", .nat f.source.utf8ByteSize),
    ("error", .text f.fault.message),
    ("note", .text ("Replay with: FUZZ_INPUT=<this file> FUZZ_LANG=<language> " ++
      "cargo run --bin fuzz_highlight"))]

/-- Saves a failure, and what is known about it. -/
def saveFailure (plan : Plan) (f : Failure) : Program m Unit := do
  orReport ("creating " ++ plan.folder.shown) (Host.makeFolders plan.folder)
  let time ← (Host.unixTime : m Nat)
  let stem := plan.pathOf f
  let text := stem.append ".txt"
  orReport ("writing " ++ text.shown) (Host.store text (Utf8.ofString f.source))
  let record := stem.append ".json"
  match ← (Host.store record (Utf8.ofString ((plan.record f time).pretty ++ "\n")) : m _) with
  | .ok _ => tell ("[save] wrote " ++ text.shown)
  | .error e => throw (.because e.message)

/-- Tells of a failure, and saves it if the plan says so. -/
def reportFailure (plan : Plan) (f : Failure) : Program m Unit := do
  tell ("[fuzz] " ++ f.language ++ " iter " ++ toString f.iteration ++ ": " ++ f.fault.message)
  if plan.save then saveFailure plan f

/-- Checks the samples of a plan. -/
def runPlan (plan : Plan) : Program m Unit := do
  tell ("[fuzz] len=" ++ toString plan.length ++ " iters=" ++ toString plan.iterations ++
    " seed=" ++ toString plan.seed ++ " grammars=" ++ toString Registry.builtin.size)
  let began ← (Host.clock : m Nat)
  let failures := plan.cases.filterMap fun (language, i) => plan.tryCase language i
  let count := plan.cases.length
  if failures.isEmpty then
    let ended ← (Host.clock : m Nat)
    tell ("[fuzz] " ++ toString count ++ " cases passed in " ++ toString (ended - began) ++ " ms ✅")
  else
    failures.forM (reportFailure plan)
    throw (.because (toString failures.length ++ " of " ++ toString count ++ " fuzz cases failed"))

/-- The program. One text to be checked again comes before everything else. -/
def run : Program m Unit := do
  let env ← (Host.environment : m Environment)
  let settings := Settings.ofEnvironment env
  match env.text? "FUZZ_INPUT" with
  | some name =>
    let p := Path.ofString name
    replay p ((env.text? "FUZZ_LANG").getD (languageOf p settings.language))
  | none =>
    runExamples (Path.ofString ((env.text? "FUZZ_EX_DIR").getD "highlight_tests")) settings.language
    runPlan (.ofEnvironment env)

end Highlighter.Program.Fuzz
