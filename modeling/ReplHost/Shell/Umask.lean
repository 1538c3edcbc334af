/-! # The file creation mask

  The mask holds the permission bits that files are created without: nine
  bits, read, write and execute for the user, the group and others, as
  three octal digits. `umask` shows it as four octal digits, or with `-S`
  as the permissions it leaves (`u=rwx,g=rx,o=rx`), and sets it:

  - from octal digits, of which only the low nine bits count;
  - or by changes to the permissions it leaves, separated by commas: the
    classes `u`, `g`, `o` or `a` (all, also when none is given), an
    operator `=`, `+` or `-`, and permissions `r`, `w`, `x`, or `u`, `g`,
    `o` for those a class has now; `X` is execute when anyone has it, and
    `s` is read and ignored. After the permissions another operator may
    follow for the same classes.
-/

namespace ReplHost.Shell

/-- The mask a shell starts with. -/
def startMask : Nat := 0o22

/-- A number in octal, with at least `width` digits. -/
def octalText (width : Nat) (n : Nat) : String :=
  let ds := Nat.toDigits 8 n
  String.ofList (List.replicate (width - ds.length) '0' ++ ds)

/-- The permissions a mask leaves. -/
def leftBy (mask : Nat) : Nat := 0o777 ^^^ (mask &&& 0o777)

/-- The mask as `umask -S` shows it. -/
def symbolicMask (mask : Nat) : String :=
  let mode := leftBy mask
  let classText := fun (i : Nat) (who : Char) =>
    let bits := (mode >>> (6 - 3 * i)) &&& 7
    String.ofList (who :: '=' ::
      ([('r', 4), ('w', 2), ('x', 1)].filterMap fun (c, b) => if bits &&& b ≠ 0 then some c else none))
  ",".intercalate [classText 0 'u', classText 1 'g', classText 2 'o']

/-- The class bits of a class letter: a one in the lowest bit of each
    digit the class covers. -/
def classBits (c : Char) : Nat :=
  match c with
  | 'u' => 0o100
  | 'g' => 0o010
  | 'o' => 0o001
  | _ => 0o111

/-- The permission value of a permission letter, from the permissions
    `mode` that the mask leaves now. -/
def permissionValue (mode : Nat) (c : Char) : Nat :=
  match c with
  | 'r' => 4
  | 'w' => 2
  | 'x' => 1
  | 'u' => (mode >>> 6) &&& 7
  | 'g' => (mode >>> 3) &&& 7
  | 'o' => mode &&& 7
  | 'X' => if mode &&& 0o111 ≠ 0 then 1 else 0
  | _ => 0

/-- Applies symbolic changes to the permissions `mode`, reading from `cs`;
    `before` are the permissions before any change, which the letters
    `u`, `g`, `o` and `X` look at. Returns the permissions and what is left
    unread, which is an error unless empty. Each round reads at least one
    character, so `fuel` beyond the length of `cs` is enough. -/
def applyChanges (before classes mode : Nat) (cs : List Char) : (fuel : Nat) → Nat × List Char
  | 0 => (mode, cs)
  | fuel + 1 =>
    match cs with
    | [] => (mode, [])
    | c :: cs =>
      if "augo".contains c then applyChanges before (classes ||| classBits c) mode cs fuel
      else
        let classes := if classes = 0 then 0o111 else classes
        if !"=+-".contains c then (mode, c :: cs)
        else
          let perms := cs.takeWhile ("rwxugoXs".contains ·)
          let rest := cs.dropWhile ("rwxugoXs".contains ·)
          let value := (perms.foldl (fun v p => v ||| permissionValue before p) 0 &&& 7) * classes
          let mode := match c with
            | '-' => mode &&& (0o777 ^^^ value)
            | '=' => value ||| (mode &&& (0o777 ^^^ (classes * 7)))
            | _ => mode ||| value
          match rest with
          | ',' :: more => applyChanges before 0 mode more fuel
          | d :: more =>
            if "=+-".contains d then applyChanges before classes mode (d :: more) fuel
            else (mode, d :: more)
          | [] => (mode, [])

/-- Reads a new mask from the argument of `umask`, given the mask now;
    the error is the message. -/
def readMask (mask : Nat) (arg : String) : Except String Nat :=
  match arg.toList with
  | c :: _ =>
    if c.isDigit then
      if arg.all fun d => '0' ≤ d && d ≤ '7' then
        .ok ((arg.toList.foldl (fun v d => 8 * v + (d.toNat - '0'.toNat)) 0) &&& 0o777)
      else .error ("Illegal number: " ++ arg)
    else
      let before := leftBy mask
      match applyChanges before 0 before arg.toList (arg.length + 1) with
      | (mode, []) => .ok (leftBy mode)
      | _ => .error ("Illegal mode: " ++ arg)
  | [] => .ok mask

end ReplHost.Shell
