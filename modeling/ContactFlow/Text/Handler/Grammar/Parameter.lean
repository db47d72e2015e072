import ContactFlow.Text.Handler.Grammar.Item

/-!
Functions without a name. Their parameters are plain ones, perhaps with a slash after the first of
them, then those with a default, then those after a star, and then one with two stars.
-/

namespace ContactFlow.Handler.Grammar

open Reader

/-- A parameter ends with a comma, or before the colon. -/
def parameterEnd : Reader Unit := mark "," <|> ahead (mark ":")

def parameter : Reader Unit := do
  let _ ← name
  parameterEnd

variable (self : Rules)

/-- What is given to a parameter that is left out. -/
def defaultValue : Reader Unit := (do
    mark "="
    let _ ← self .expression) <|> explaining (do
    mark "="
    ahead (oneMark [")", ","])
    refuse .noDefault)

def defaulted : Reader Unit := do
  let _ ← name
  defaultValue self
  parameterEnd

def anyParameter : Reader Unit := do
  let _ ← name
  Reader.optional (defaultValue self)
  parameterEnd

def slash : Reader Unit := do
  mark "/"
  parameterEnd

def plainThenSlash : Reader Unit := do
  let _ ← oneOrMore parameter
  slash

def defaultedThenSlash : Reader Unit := do
  let _ ← many parameter
  let _ ← oneOrMore (defaulted self)
  slash

/-! ## What follows a star -/

def misnamed : Reader Unit := (do
    mark "**"
    let _ ← name
    mark "="
    refuse .keywordsDefault) <|> (do
    mark "**"
    let _ ← name
    mark ","
    let _ ← name
    refuse .afterKeywords) <|> (do
    mark "**"
    let _ ← name
    mark ","
    let _ ← oneMark ["*", "**", "/"]
    refuse .afterKeywords)

def doubleStarredParameter : Reader Unit := explaining misnamed <|> (do
    mark "**"
    parameter)

/-- Why what follows a star is not well formed. -/
def misstarred : Reader Unit := (do
    mark "*"
    mark ":" <|> (do
      mark ","
      let _ ← oneMark [":", "**"])
    refuse .bareStar) <|> (do
    mark "*"
    let _ ← name
    mark "="
    refuse .starDefault) <|> (do
    mark "*"
    parameter <|> mark ","
    let _ ← many (anyParameter self)
    mark "*"
    parameter <|> mark ","
    refuse .starTwice)

def starredParameters : Reader Unit := explaining (misstarred self) <|> (do
    mark "*"
    parameter
    let _ ← many (anyParameter self)
    Reader.optional doubleStarredParameter) <|> (do
    mark "*"
    mark ","
    let _ ← oneOrMore (anyParameter self)
    Reader.optional doubleStarredParameter) <|> doubleStarredParameter

/-! ## All of them -/

/-- Why parameters are not well formed. -/
def misparameters : Reader Unit := (do
    let _ ← many parameter
    defaultedThenSlash self <|> (do let _ ← oneOrMore (defaulted self))
    parameter
    refuse .plainAfterDefault) <|> (do
    let _ ← many parameter
    mark "("
    let _ ← listed name
    mark ")"
    refuse .bracketedParameters) <|> (do
    mark "/"
    mark ","
    refuse .slashFirst) <|> (do
    plainThenSlash <|> defaultedThenSlash self
    let _ ← many (anyParameter self)
    mark "/"
    refuse .slashTwice) <|> (do
    Reader.optional (plainThenSlash <|> defaultedThenSlash self)
    let _ ← many (anyParameter self)
    mark "*"
    mark "," <|> parameter
    let _ ← many (anyParameter self)
    mark "/"
    refuse .slashAfterStar) <|> (do
    let _ ← oneOrMore (anyParameter self)
    mark "/"
    mark "*"
    refuse .slashThenStar)

def parameters : Reader Unit := explaining (misparameters self) <|> (do
    plainThenSlash
    let _ ← many parameter
    let _ ← many (defaulted self)
    Reader.optional (starredParameters self)) <|> (do
    defaultedThenSlash self
    let _ ← many (defaulted self)
    Reader.optional (starredParameters self)) <|> (do
    let _ ← oneOrMore parameter
    let _ ← many (defaulted self)
    Reader.optional (starredParameters self)) <|> (do
    let _ ← oneOrMore (defaulted self)
    Reader.optional (starredParameters self)) <|> starredParameters self

def function : Reader Expression := do
  word "lambda"
  Reader.optional (parameters self)
  mark ":"
  let _ ← self .expression
  pure (.other .function)

end ContactFlow.Handler.Grammar
