/-!
# Plain data

What settings are read from and reports are made of: a tree of lists and named fields. A number with
a fraction or an exponent is kept only as such, since no setting takes one.
-/

namespace SocketBridge

inductive Data
  | null
  | bool (b : Bool)
  | int (n : Int)
  | real
  | text (s : String)
  | list (items : List Data)
  | fields (items : List (String × Data))
deriving Inhabited

end SocketBridge
