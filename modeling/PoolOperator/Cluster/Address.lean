import PoolOperator.Text.Split

/-!
# Addresses

What a request is about is said by a path and perhaps a query
(`Address.ofText`).  Where a cluster is to be found is said by a URL
(`Address.isUrl`).  Both are texts over a limited set of characters.
-/

namespace PoolOperator

namespace Address

/-- May a path contain the character as it is? -/
def isPathChar (char : Char) : Bool :=
  let code := char.toNat
  code = 0x21 || (0x24 ≤ code && code ≤ 0x3B) || code = 0x3D || (0x40 ≤ code && code ≤ 0x5F)
    || (0x61 ≤ code && code ≤ 0x7A) || code = 0x7C || 0x7E ≤ code
    || char = '"' || char = '{' || char = '}'

/-- May a query contain the character as it is? -/
def isQueryChar (char : Char) : Bool :=
  let code := char.toNat
  code = 0x21 || (0x24 ≤ code && code ≤ 0x3B) || code = 0x3D || 0x3F ≤ code

/-- The greatest number of bytes in an address. -/
def greatestSize : Nat := 65534

/-- The address that a text stands for, or what is wrong with it.  A fragment
is left out. -/
def ofText (text : String) : Except String String :=
  if text.utf8ByteSize > greatestSize then .error "uri too long"
  else
    let shown := text.toList.takeWhile (· ≠ '#')
    let (path, query) := shown.span (· ≠ '?')
    if path.all isPathChar && query.all isQueryChar then .ok (String.ofList shown)
    else .error "invalid uri character"

/-! ## URLs -/

/-- May the name of a scheme contain the character? -/
def isSchemeChar (char : Char) : Bool := char.isAlphanum || char ∈ ['+', '-', '.']

/-- The text after the scheme of a URL; nothing if there is no scheme. -/
def afterScheme? (text : List Char) : Option (List Char) :=
  match text.dropWhile isSchemeChar with
  | ':' :: '/' :: '/' :: rest => some rest
  | _ => none

/-- May the name of a host contain the character? -/
def isHostChar (char : Char) : Bool :=
  char.isAlphanum || char ∈ "!$&'()*+,-.;=_~".toList

/-- What may follow a host in brackets, or a host without any: a port. -/
def isPort : List Char → Bool
  | [] => true
  | ':' :: port => port.all isHostChar
  | _ => false

/-- Is this a host, perhaps with a port? -/
def isHostPort (text : List Char) : Bool :=
  match text with
  | '[' :: address =>
      match Text.splitOnce? (· = ']') address with
      | some (inner, port) => inner.all (fun char => isHostChar char || char = ':') && isPort port
      | none => false
  | text =>
      let (host, port) := text.span (· ≠ ':')
      host.all isHostChar && isPort port

/-- Is this a host, perhaps with a user before it? -/
def isAuthority (text : List Char) : Bool :=
  match Text.splitOnce? (· = '@') text with
  | some (user, host) =>
      user.all (fun char => isHostChar char || char = ':') && !host.isEmpty && isHostPort host
  | none => isHostPort text

/-- Does a text tell where something is to be found: a host, or a URL, or a
path alone? -/
def isUrl (text : String) : Bool :=
  let chars := text.toList
  if chars = ['*'] then true
  else if chars.head? = some '/' then (ofText text).isOk
  else
    match afterScheme? chars with
    | some rest =>
        let (authority, target) := rest.span fun char => !(['/', '?', '#'].contains char)
        !authority.isEmpty && isAuthority authority && (ofText (String.ofList target)).isOk
    | none => !chars.isEmpty && isAuthority chars

end Address

end PoolOperator
