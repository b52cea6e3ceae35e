import CommandGrammar.Shell.Yaml.Gap

/-!
# Plain scalars

Plain text ends where something stands that means more than itself: a colon before a blank, a
comment, a document marker, inside brackets their marks, and outside of them a line that does not
stand deep enough.
-/

set_option autoImplicit false

namespace CommandGrammar.Yaml

def endsPlain (flow : Bool) (c : Char) (rest : List Char) : Bool :=
  (flow && isFlowMark c) || (c = ':' && (endsMark rest || (flow && startsFlow rest)))

def endsGap (flow : Bool) (least : Int) (gap : Gap) (p : Place) : Bool :=
  (!flow && gap.crosses && p.column < least) || (p.leading && startsMarker p.rest) ||
    p.rest.head? == some '#'

def plainEnd (text : String) (p : Place) : Except Fault Scalar :=
  if text.isEmpty then .error .unexpected else .ok ⟨text, p⟩

/-- Goes on with plain text, inside a run or behind a gap. A line that starts with a tab left of
column `least` must be vacant, and is passed to its end. The gap behind the last run is passed,
too. -/
def plainFrom (flow : Bool) (least : Int) (text : String) (gap : Option Gap) (vacant : Bool)
    (p : Place) : List Char → Except Fault Scalar
  | [] => plainEnd text p
  | c :: rest =>
    let next := p.pass c rest
    if c = '\n' then
      plainFrom flow least text (some (gap.getD .none).addBreak) false next rest
    else if vacant then plainFrom flow least text gap true next rest
    else if isInlineBlank c then
      if c = '\t' ∧ p.leading ∧ p.column < least then
        if isVacant rest then plainFrom flow least text gap true next rest else .error .tab
      else plainFrom flow least text (some ((gap.getD .none).addBlank c)) false next rest
    else
      match gap with
      | none =>
        if endsPlain flow c rest then plainEnd text p
        else plainFrom flow least (text.push c) none false next rest
      | some gap =>
        if endsGap flow least gap p then plainEnd text p
        else if flow ∧ c = '-' ∧ startsFlow rest then .error .unexpected
        else if endsPlain flow c rest then plainEnd text p
        else plainFrom flow least ((text ++ gap.text).push c) none false next rest

def plainScalar (flow : Bool) (least : Int) (p : Place) : Except Fault Scalar :=
  if flow ∧ p.column < least then .error .indentation
  else plainFrom flow least "" (some .none) false p p.rest

end CommandGrammar.Yaml
