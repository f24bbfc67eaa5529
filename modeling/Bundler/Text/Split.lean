/-!
# Bundler.Text.Split

Cutting a text at separator characters and putting the pieces together again.

* `fields p s`: the pieces between the characters that satisfy `p`, empty pieces included.
* `joinWith sep ws`: the pieces with `sep` between neighbours.
-/

namespace Bundler.Text

/-- The pieces of a text between the characters that satisfy `p`; there is always one more piece
than separators. -/
def fields (p : Char → Bool) : List Char → List (List Char)
  | [] => [[]]
  | c :: s =>
    if p c then [] :: fields p s
    else
      match fields p s with
      | [] => [[c]]
      | w :: ws => (c :: w) :: ws

def joinWith (sep : List Char) : List (List Char) → List Char
  | [] => []
  | [w] => w
  | w :: v :: ws => w ++ sep ++ joinWith sep (v :: ws)

theorem fields_ne_nil (p : Char → Bool) (s : List Char) : fields p s ≠ [] := by
  cases s with
  | nil => simp [fields]
  | cons c s =>
    simp only [fields]
    split
    · simp
    · split <;> simp

end Bundler.Text
