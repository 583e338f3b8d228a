import AssetCatalog.Asset.Tree
import AssetCatalog.Module.Literal
import AssetCatalog.Module.WebPath

/-! The lines of the emitted module: one class for each group, one constant for each file. -/

namespace AssetCatalog.Layout

open Asset (Node)

/-- The lines before the first class of the tree. -/
def preamble : List Text :=
  ["# <auto-generated/>",
    "# This file is generated by assetgen. Do not edit it by hand.",
    "",
    "from __future__ import annotations",
    "",
    "from typing import Final, NoReturn",
    "",
    "",
    "class _AssetGroup:",
    "    \"\"\"Base of every generated asset group. Groups are never instantiated.\"\"\"",
    "",
    "    __slots__ = ()",
    "",
    "    def __new__(cls, *args: object, **kwargs: object) -> NoReturn:",
    "        raise TypeError(f\"\x7bcls.__name__\x7d is a static asset group and cannot be instantiated\")",
    "",
    ""].map String.toList

/-- The first line of the body of the outermost class. -/
def rootDocstring : Text :=
  "\"\"\"Provides strongly-typed access to static asset paths.\"\"\""

/-- The columns before a line at a depth. -/
def indent (depth : Nat) : Text :=
  List.replicate (4 * depth) ' '

/-- The lines of one constant, a blank line behind them. -/
def constantLines (base : Text) (depth : Nat) (name : Text) (relative : Option Text) : List Text :=
  let path := webPath base (relative.getD [])
  [indent depth ++ "#: Path: " ++ Literal.escape path,
    indent depth ++ name ++ ": Final = " ++ Literal.quote path,
    []]

/-- The lines with a blank one behind them, unless they end in one. -/
def endBlank (lines : List Text) : List Text :=
  match lines.getLast? with
  | some [] => lines
  | _ => lines ++ [[]]

/-- What is emitted for one child: whether it is a constant, its name and its lines. -/
structure Block where
  /-- Whether the child is a constant rather than a group. -/
  isConstant : Bool
  /-- The name that the child binds. -/
  name : Text
  /-- The lines of the child. -/
  lines : List Text
deriving Repr

/-- The lines of blocks in the order of their names. -/
def linesByName (blocks : List Block) : List Text :=
  (Text.sortBy Block.name blocks).flatMap Block.lines

/-- The lines that open the body of a class: a docstring at the root, a filler where all else is missing. -/
def opening (depth : Nat) (isEmpty : Bool) : List Text :=
  if depth = 0 then [indent 1 ++ rootDocstring, []]
  else if isEmpty then [indent (depth + 1) ++ "pass", []]
  else []

mutual

/-- The lines of the class of a group: constants first, then groups, each in the order of names. -/
def groupLines (base : Text) (depth : Nat) : Node → List Text
  | ⟨_, name, _, _, _, children⟩ =>
    let blocks := childBlocks base (depth + 1) children
    (indent depth ++ "class " ++ name ++ "(_AssetGroup):") :: opening depth blocks.isEmpty
      ++ linesByName (blocks.filter Block.isConstant)
      ++ linesByName (blocks.filter fun block => !block.isConstant)

/-- The blocks of the children of a group, in the order of the children. -/
def childBlocks (base : Text) (depth : Nat) : List Node → List Block
  | [] => []
  | child :: rest =>
    let lines := if child.isLeaf then constantLines base depth child.name child.relative
      else endBlank (groupLines base depth child)
    ⟨child.isLeaf, child.name, lines⟩ :: childBlocks base depth rest

end

/-- The lines without the blank ones at their end. -/
def withoutTrailingBlanks (lines : List Text) : List Text :=
  (lines.reverse.dropWhile List.isEmpty).reverse

/-- The whole text of the module for a tree; every line ends in a line feed. -/
def moduleText (base : Text) (tree : Node) : Text :=
  Text.joinWith ['\n'] (withoutTrailingBlanks (preamble ++ groupLines base 0 tree)) ++ ['\n']

end AssetCatalog.Layout
