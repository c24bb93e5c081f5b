/-
  FixedCapacity.Trace — what a call reports while it runs.

  A span says that a call set about something: inserting, sorting, binding, allocating.
  An event says that it was refused, and with which figures. `name`, `level` and
  `fields` are how an entry is shown.
-/

import FixedCapacity.Text.Decimal

namespace FixedCapacity.Trace

/-- The kinds of container an entry may speak of. -/
inductive Container where
  | array
  | string
  | buffer
  deriving DecidableEq, Repr

inductive Level where
  | trace
  | debug
  deriving DecidableEq, Repr

/-- What a call set about. -/
inductive Span where
  | insert (container : Container) (len count capacity : Nat)
  | sort (len : Nat)
  | bind (container : Container) (size : Nat)
  | allocate (container : Container) (size : Nat)
  deriving DecidableEq, Repr

/-- What a call was refused for. -/
inductive Alert where
  | arrayFull (capacity : Nat)
  | resizeOverflow (container : Container) (len capacity : Nat)
  | insertOverflow (container : Container) (len count capacity : Nat)
  | copyOverflow (source destination : Nat)
  | allocationFailed (container : Container) (size : Nat)
  | bufferTooSmall
  | invalidPattern (pattern : String)
  | alternativeInactive (index : Nat)
  | visitedEmpty
  deriving DecidableEq, Repr

inductive Entry where
  | span (s : Span)
  | alert (a : Alert)
  deriving DecidableEq, Repr

def Container.name : Container → String
  | .array => "array"
  | .string => "string"
  | .buffer => "buffer"

def Level.name : Level → String
  | .trace => "TRACE"
  | .debug => "DEBUG"

namespace Span

def name : Span → String
  | insert .. => "container_insert"
  | sort .. => "container_sort"
  | bind .. => "container_bind"
  | allocate .. => "container_alloc"

/-- Work on the elements is finer than binding and allocation. -/
def level : Span → Level
  | insert .. | sort .. => .trace
  | bind .. | allocate .. => .debug

def fields : Span → List (String × String)
  | insert container len count capacity =>
    [("container", container.name), ("len", Text.decimal len), ("count", Text.decimal count),
     ("capacity", Text.decimal capacity)]
  | sort len => [("len", Text.decimal len)]
  | bind container size => [("container", container.name), ("buffer_size", Text.decimal size)]
  | allocate container size => [("container", container.name), ("size", Text.decimal size)]

end Span

namespace Alert

def message : Alert → String
  | arrayFull .. => "array full"
  | resizeOverflow container .. => container.name ++ " resize overflow"
  | insertOverflow container .. => container.name ++ " insert overflow"
  | copyOverflow .. => "buffer copy overflow"
  | allocationFailed container .. => container.name ++ " allocation failed"
  | bufferTooSmall => "buffer too small for a single element"
  | invalidPattern .. => "invalid search pattern"
  | alternativeInactive .. => "variant alternative not active"
  | visitedEmpty => "visitor applied to empty variant"

/-- Arrays count their allocation in elements, the others in bytes. -/
def fields : Alert → List (String × String)
  | arrayFull capacity => [("capacity", Text.decimal capacity)]
  | resizeOverflow _ len capacity =>
    [("len", Text.decimal len), ("capacity", Text.decimal capacity)]
  | insertOverflow _ len count capacity =>
    [("len", Text.decimal len), ("count", Text.decimal count),
     ("capacity", Text.decimal capacity)]
  | copyOverflow source destination =>
    [("src_size", Text.decimal source), ("dst_size", Text.decimal destination)]
  | allocationFailed .array size => [("capacity", Text.decimal size)]
  | allocationFailed _ size => [("size", Text.decimal size)]
  | bufferTooSmall => []
  | invalidPattern pattern => [("pattern", pattern)]
  | alternativeInactive index => [("index", Text.decimal index)]
  | visitedEmpty => []

end Alert

namespace Entry

def level : Entry → Level
  | span s => s.level
  | alert _ => .debug

def fields : Entry → List (String × String)
  | span s => s.fields
  | alert a => a.fields

end Entry

end FixedCapacity.Trace
