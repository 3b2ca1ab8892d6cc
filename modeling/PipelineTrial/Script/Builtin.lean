/-! The functions that scripts find ready made, by the kind of value that they belong to. -/

namespace PipelineTrial

namespace Script

/-- The kinds of errors that scripts and their evaluation throw. -/
inductive ErrorKind where
  | plain
  | typeError
  | rangeError
  | referenceError
  | syntaxError
  deriving DecidableEq

/-- The name of a kind of errors. -/
def ErrorKind.name : ErrorKind → String
  | .plain => "Error"
  | .typeError => "TypeError"
  | .rangeError => "RangeError"
  | .referenceError => "ReferenceError"
  | .syntaxError => "SyntaxError"

/-- Functions that make objects. -/
inductive Maker where
  | object
  | function
  | list
  | text
  | number
  | boolean
  | failure (kind : ErrorKind)
  | moment
  | pattern
  deriving DecidableEq

/-- Functions over objects of every kind. -/
inductive ObjectOperation where
  | assign
  | create
  | defineProperties
  | defineProperty
  | entries
  | freeze
  | fromEntries
  | getOwnPropertyDescriptor
  | getOwnPropertyDescriptors
  | getOwnPropertyNames
  | getOwnPropertySymbols
  | getPrototypeOf
  | hasOwn
  | is
  | isExtensible
  | isFrozen
  | isSealed
  | keys
  | preventExtensions
  | seal
  | setPrototypeOf
  | values
  deriving DecidableEq

/-- Methods of objects of every kind. -/
inductive ObjectMethod where
  | hasOwnProperty
  | isPrototypeOf
  | propertyIsEnumerable
  | toLocaleString
  | toString
  | valueOf
  | readPrototype
  | writePrototype
  deriving DecidableEq

/-- Methods of functions. -/
inductive FunctionMethod where
  | apply
  | bind
  | call
  | toString
  deriving DecidableEq

/-- Functions over lists. -/
inductive ListOperation where
  | fromItems
  | isArray
  | ofItems
  deriving DecidableEq

/-- Methods of lists. -/
inductive ListMethod where
  | at
  | concat
  | copyWithin
  | entries
  | every
  | fill
  | filter
  | find
  | findIndex
  | findLast
  | findLastIndex
  | flat
  | flatMap
  | forEach
  | includes
  | indexOf
  | join
  | keys
  | lastIndexOf
  | map
  | pop
  | push
  | reduce
  | reduceRight
  | reverse
  | shift
  | slice
  | some
  | sort
  | splice
  | toLocaleString
  | toReversed
  | toSorted
  | toSpliced
  | toString
  | unshift
  | values
  | withItem
  deriving DecidableEq

/-- The method of a walk over a list or text. -/
inductive WalkMethod where
  | next
  deriving DecidableEq

/-- Functions that make texts. -/
inductive TextOperation where
  | fromCharCode
  | fromCodePoint
  | raw
  deriving DecidableEq

/-- Methods of texts. -/
inductive TextMethod where
  | at
  | charAt
  | charCodeAt
  | codePointAt
  | concat
  | endsWith
  | includes
  | indexOf
  | isWellFormed
  | lastIndexOf
  | localeCompare
  | normalize
  | padEnd
  | padStart
  | repeat
  | replace
  | replaceAll
  | slice
  | split
  | startsWith
  | substr
  | substring
  | toLowerCase
  | toString
  | toUpperCase
  | toWellFormed
  | trim
  | trimEnd
  | trimStart
  | valueOf
  deriving DecidableEq

/-- Functions over numbers that do not convert their argument. -/
inductive NumberOperation where
  | isFinite
  | isInteger
  | isNaN
  | isSafeInteger
  deriving DecidableEq

/-- Methods of numbers. -/
inductive NumberMethod where
  | toExponential
  | toFixed
  | toLocaleString
  | toPrecision
  | toString
  | valueOf
  deriving DecidableEq

/-- Methods of booleans. -/
inductive BooleanMethod where
  | toString
  | valueOf
  deriving DecidableEq

/-- Functions of arithmetic. -/
inductive MathOperation where
  | abs
  | acos
  | acosh
  | asin
  | asinh
  | atan
  | atan2
  | atanh
  | cbrt
  | ceil
  | clz32
  | cos
  | cosh
  | exp
  | expm1
  | floor
  | fround
  | hypot
  | imul
  | log
  | log10
  | log1p
  | log2
  | max
  | min
  | pow
  | random
  | round
  | sign
  | sin
  | sinh
  | sqrt
  | tan
  | tanh
  | trunc
  deriving DecidableEq

/-- Functions between values and their written form. -/
inductive JsonOperation where
  | parse
  | stringify
  deriving DecidableEq

/-- The method of errors. -/
inductive FailureMethod where
  | toString
  deriving DecidableEq

/-- Functions that make points in time. -/
inductive MomentOperation where
  | now
  | parse
  | utc
  deriving DecidableEq

/-- Methods of points in time, in universal time. -/
inductive MomentMethod where
  | getDate
  | getDay
  | getFullYear
  | getHours
  | getMilliseconds
  | getMinutes
  | getMonth
  | getSeconds
  | getTime
  | getTimezoneOffset
  | toISOString
  | toJSON
  | toString
  | valueOf
  deriving DecidableEq

/-- Functions that belong to no kind of value. -/
inductive GlobalOperation where
  | isFinite
  | isNaN
  | parseFloat
  | parseInt
  deriving DecidableEq

/-- A ready-made function. -/
inductive Builtin where
  | maker (maker : Maker)
  | objectOperation (operation : ObjectOperation)
  | objectMethod (method : ObjectMethod)
  | functionMethod (method : FunctionMethod)
  | listOperation (operation : ListOperation)
  | listMethod (method : ListMethod)
  | walkMethod (method : WalkMethod)
  | textOperation (operation : TextOperation)
  | textMethod (method : TextMethod)
  | numberOperation (operation : NumberOperation)
  | numberMethod (method : NumberMethod)
  | booleanMethod (method : BooleanMethod)
  | mathOperation (operation : MathOperation)
  | jsonOperation (operation : JsonOperation)
  | failureMethod (method : FailureMethod)
  | momentOperation (operation : MomentOperation)
  | momentMethod (method : MomentMethod)
  | globalOperation (operation : GlobalOperation)
  deriving DecidableEq

/-- Ready-made functions of one kind, with their names and numbers of parameters. -/
abbrev BuiltinTable (α : Type) := List (String × Nat × α)

end Script

end PipelineTrial
