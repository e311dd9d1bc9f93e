import MacroStream.Config
import MacroStream.Text.Blank

/-!
# Craft loops

A craft loop runs a macro once per craft. With a template the macro and the count are filled into
the template; without one the body gets a gate step that counts, the clicks that open the next
craft, and a step that goes back to the start. From the crafting log the synthesized steps come
first, from the synthesis window they come behind the body.
-/

namespace MacroStream

namespace CraftLoopConfig

/-- The count that stands for "for ever" in a template. -/
def unboundedCount : Int32 := 999999

/-- One less, but not below the smallest count. -/
def countBefore (count : Int32) : Int32 :=
  if count = Int32.minValue then count else count - 1

/-- The decimal digits of a count. -/
def countText (count : Int32) : String := Int.repr count.toInt

/-- The template with the body and the count filled in; a count of 0 leaves the body alone. -/
def fillTemplate (c : CraftLoopConfig) (contents : String) (count : Int32) : Outcome String :=
  if count = 0 then .ok contents
  else if !c.hasPlaceholder then .error missingPlaceholder
  else
    let count := if count = -1 then unboundedCount else count
    .ok (Text.replaceAll (Text.replaceAll c.template macroPlaceholder contents) countPlaceholder
      (countText count))

/-- The suffix that lets a synthesized step wait. -/
def waitSuffix (c : CraftLoopConfig) : String :=
  if c.maxWait = 0 then "" else " <maxwait." ++ Nat.repr c.maxWait.toNat ++ ">"

/-- The suffix that echoes a synthesized step. -/
def echoSuffix (c : CraftLoopConfig) : String := if c.echo then " <echo>" else ""

/-- The step that counts the crafts. -/
def gateStep (c : CraftLoopConfig) (count : Int32) : String :=
  if c.fromRecipeNote then "/craft " ++ countText count ++ c.echoSuffix
  else "/gate " ++ countText (countBefore count) ++ c.echoSuffix

/-- The steps that open the next craft. -/
def clickSteps (c : CraftLoopConfig) : List String :=
  ["/waitaddon \"RecipeNote\"" ++ c.waitSuffix,
    "/click \"RecipeNote Synthesize\"",
    "/waitaddon \"Synthesis\"" ++ c.waitSuffix]

/-- The step that goes back to the start. -/
def loopStep (c : CraftLoopConfig) : String := "/loop" ++ c.echoSuffix

/-- The steps before and behind the body. -/
def fixedSteps (c : CraftLoopConfig) (count : Int32) : List String × List String :=
  if c.fromRecipeNote then
    if count = 0 then ([], [])
    else if count = 1 then (c.clickSteps, [])
    else if count = -1 then (c.clickSteps, [c.loopStep])
    else (c.gateStep count :: c.clickSteps, [c.loopStep])
  else
    if count = 0 ∨ count = 1 then ([], [])
    else if count = -1 then ([], c.clickSteps ++ [c.loopStep])
    else ([], c.gateStep count :: c.clickSteps ++ [c.loopStep])

/-- The body between the fixed steps, trimmed. -/
def surround (c : CraftLoopConfig) (contents : String) (count : Int32) : String :=
  let (before, behind) := c.fixedSteps count
  Text.trim ("\n".intercalate (before ++ [contents] ++ behind))

/-- The source of a macro that repeats `count` times; unchanged unless `enabled`. -/
def transform (c : CraftLoopConfig) (contents : String) (enabled : Bool) (count : Int32) :
    Outcome String :=
  if !enabled then .ok contents
  else if c.templateEnabled then c.fillTemplate contents count
  else .ok (c.surround contents count)

end CraftLoopConfig

end MacroStream
