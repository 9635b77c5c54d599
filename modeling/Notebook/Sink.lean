import Notebook.Display.Layout

set_option autoImplicit false

namespace Notebook

open Notebook.Display

inductive Channel where
  | result
  | error
deriving DecidableEq, Repr

def Channel.topic : Channel → String
  | .result => "stdout"
  | .error => "stderr"

structure Record (α : Type) where
  events : List (Channel × α) := []

namespace Record

variable {α : Type}

def write (r : Record α) (c : Channel) (value : α) : Record α := ⟨r.events ++ [(c, value)]⟩

def on (r : Record α) (c : Channel) : List α := (r.events.filter (·.1 == c)).map (·.2)

def clear (_ : Record α) : Record α := {}

end Record

structure Console where
  out : String := ""
  err : String := ""

namespace Console

/-- Results are laid out; an error that is a text stands as it is. -/
def write (c : Console) (ch : Channel) (v : Shown) : Console :=
  match ch, v with
  | .result, v => { c with out := c.out ++ v.text ++ "\n" }
  | .error, .str s => { c with err := c.err ++ s ++ "\n" }
  | .error, v => { c with err := c.err ++ v.text ++ "\n" }

end Console

end Notebook
