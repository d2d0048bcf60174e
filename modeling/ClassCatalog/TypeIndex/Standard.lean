import ClassCatalog.TypeIndex.Basic

/-!
# Standard library types

The types of the standard library that are known without their sources, package by package, with
their superclasses and interfaces.
-/

namespace ClassCatalog

/-- A type of the standard library; a class without a named superclass has the one of its kind. -/
structure StandardType where
  name : String
  kind : ClassKind
  superclass : Option String := none
  interfaces : List String := []

namespace StandardType

/-- A class with the root type as its superclass. -/
def rootClass (name : String) (interfaces : List String := []) : StandardType :=
  { name, kind := .plain, interfaces }

/-- A class with a named superclass. -/
def subclass (name superclass : String) (interfaces : List String := []) : StandardType :=
  { name, kind := .plain, superclass := some superclass, interfaces }

/-- An interface with the interfaces it extends. -/
def interface (name : String) (interfaces : List String := []) : StandardType :=
  { name, kind := .interface, interfaces }

/-- An annotation type. -/
def annotationType (name : String) : StandardType :=
  { name, kind := .annotationType }

/-- The known types of `java.lang`. -/
def langTypes : List StandardType :=
  [ rootClass "java.lang.Object",
    rootClass "java.lang.String"
      ["java.io.Serializable", "java.lang.Comparable", "java.lang.CharSequence"],
    interface "java.lang.CharSequence",
    interface "java.lang.Comparable",
    interface "java.lang.Iterable",
    interface "java.lang.Runnable",
    interface "java.lang.AutoCloseable",
    interface "java.lang.Cloneable",
    rootClass "java.lang.Number" ["java.io.Serializable"],
    rootClass "java.lang.Boolean" ["java.io.Serializable", "java.lang.Comparable"],
    rootClass "java.lang.Character" ["java.io.Serializable", "java.lang.Comparable"],
    subclass "java.lang.Byte" "java.lang.Number" ["java.lang.Comparable"],
    subclass "java.lang.Short" "java.lang.Number" ["java.lang.Comparable"],
    subclass "java.lang.Integer" "java.lang.Number" ["java.lang.Comparable"],
    subclass "java.lang.Long" "java.lang.Number" ["java.lang.Comparable"],
    subclass "java.lang.Float" "java.lang.Number" ["java.lang.Comparable"],
    subclass "java.lang.Double" "java.lang.Number" ["java.lang.Comparable"],
    rootClass "java.lang.Void",
    rootClass "java.lang.Enum" ["java.lang.Comparable", "java.io.Serializable"],
    rootClass "java.lang.Record",
    rootClass "java.lang.Class" ["java.io.Serializable"],
    rootClass "java.lang.Math",
    rootClass "java.lang.System",
    rootClass "java.lang.StringBuilder" ["java.io.Serializable", "java.lang.CharSequence"],
    rootClass "java.lang.Thread" ["java.lang.Runnable"],
    rootClass "java.lang.Throwable" ["java.io.Serializable"],
    subclass "java.lang.Exception" "java.lang.Throwable",
    subclass "java.lang.Error" "java.lang.Throwable",
    subclass "java.lang.RuntimeException" "java.lang.Exception",
    subclass "java.lang.IllegalArgumentException" "java.lang.RuntimeException",
    subclass "java.lang.IllegalStateException" "java.lang.RuntimeException",
    subclass "java.lang.UnsupportedOperationException" "java.lang.RuntimeException",
    annotationType "java.lang.Override",
    annotationType "java.lang.Deprecated",
    annotationType "java.lang.FunctionalInterface",
    annotationType "java.lang.SuppressWarnings" ]

/-- The known types of `java.io`. -/
def streamTypes : List StandardType :=
  [ interface "java.io.Serializable",
    interface "java.io.Closeable" ["java.lang.AutoCloseable"] ]

/-- The known types of `java.util`. -/
def utilTypes : List StandardType :=
  [ interface "java.util.Collection" ["java.lang.Iterable"],
    interface "java.util.List" ["java.util.Collection"],
    interface "java.util.Set" ["java.util.Collection"],
    interface "java.util.SortedSet" ["java.util.Set"],
    interface "java.util.NavigableSet" ["java.util.SortedSet"],
    interface "java.util.Queue" ["java.util.Collection"],
    interface "java.util.Deque" ["java.util.Queue"],
    interface "java.util.Map",
    interface "java.util.Map.Entry",
    interface "java.util.SortedMap" ["java.util.Map"],
    interface "java.util.NavigableMap" ["java.util.SortedMap"],
    interface "java.util.Iterator",
    interface "java.util.ListIterator" ["java.util.Iterator"],
    interface "java.util.Comparator",
    interface "java.util.RandomAccess",
    rootClass "java.util.AbstractCollection" ["java.util.Collection"],
    subclass "java.util.AbstractList" "java.util.AbstractCollection" ["java.util.List"],
    subclass "java.util.AbstractSet" "java.util.AbstractCollection" ["java.util.Set"],
    subclass "java.util.AbstractQueue" "java.util.AbstractCollection" ["java.util.Queue"],
    rootClass "java.util.AbstractMap" ["java.util.Map"],
    subclass "java.util.ArrayList" "java.util.AbstractList"
      ["java.util.List", "java.util.RandomAccess", "java.lang.Cloneable", "java.io.Serializable"],
    subclass "java.util.LinkedList" "java.util.AbstractList"
      ["java.util.List", "java.util.Deque", "java.lang.Cloneable", "java.io.Serializable"],
    subclass "java.util.Vector" "java.util.AbstractList"
      ["java.util.List", "java.util.RandomAccess", "java.lang.Cloneable", "java.io.Serializable"],
    subclass "java.util.Stack" "java.util.Vector",
    subclass "java.util.ArrayDeque" "java.util.AbstractCollection"
      ["java.util.Deque", "java.lang.Cloneable", "java.io.Serializable"],
    subclass "java.util.PriorityQueue" "java.util.AbstractQueue" ["java.io.Serializable"],
    subclass "java.util.HashMap" "java.util.AbstractMap"
      ["java.util.Map", "java.lang.Cloneable", "java.io.Serializable"],
    subclass "java.util.LinkedHashMap" "java.util.HashMap" ["java.util.Map"],
    subclass "java.util.TreeMap" "java.util.AbstractMap"
      ["java.util.NavigableMap", "java.lang.Cloneable", "java.io.Serializable"],
    subclass "java.util.EnumMap" "java.util.AbstractMap"
      ["java.io.Serializable", "java.lang.Cloneable"],
    subclass "java.util.IdentityHashMap" "java.util.AbstractMap"
      ["java.util.Map", "java.io.Serializable", "java.lang.Cloneable"],
    subclass "java.util.WeakHashMap" "java.util.AbstractMap" ["java.util.Map"],
    rootClass "java.util.Dictionary",
    subclass "java.util.Hashtable" "java.util.Dictionary"
      ["java.util.Map", "java.lang.Cloneable", "java.io.Serializable"],
    subclass "java.util.Properties" "java.util.Hashtable",
    subclass "java.util.HashSet" "java.util.AbstractSet"
      ["java.util.Set", "java.lang.Cloneable", "java.io.Serializable"],
    subclass "java.util.LinkedHashSet" "java.util.HashSet"
      ["java.util.Set", "java.lang.Cloneable", "java.io.Serializable"],
    subclass "java.util.TreeSet" "java.util.AbstractSet"
      ["java.util.NavigableSet", "java.lang.Cloneable", "java.io.Serializable"],
    subclass "java.util.EnumSet" "java.util.AbstractSet"
      ["java.lang.Cloneable", "java.io.Serializable"],
    rootClass "java.util.BitSet" ["java.lang.Cloneable", "java.io.Serializable"],
    rootClass "java.util.Optional",
    rootClass "java.util.OptionalInt",
    rootClass "java.util.OptionalLong",
    rootClass "java.util.OptionalDouble",
    rootClass "java.util.Objects",
    rootClass "java.util.Arrays",
    rootClass "java.util.Collections",
    rootClass "java.util.Random" ["java.io.Serializable"],
    rootClass "java.util.UUID" ["java.io.Serializable", "java.lang.Comparable"],
    rootClass "java.util.Locale" ["java.lang.Cloneable", "java.io.Serializable"],
    rootClass "java.util.Scanner" ["java.util.Iterator", "java.io.Closeable"],
    rootClass "java.util.StringJoiner" ]

/-- The known types of `java.util.function`. -/
def functionTypes : List StandardType :=
  [ interface "java.util.function.BiConsumer",
    interface "java.util.function.BiFunction",
    interface "java.util.function.BiPredicate",
    interface "java.util.function.BooleanSupplier",
    interface "java.util.function.Consumer",
    interface "java.util.function.DoubleBinaryOperator",
    interface "java.util.function.DoubleConsumer",
    interface "java.util.function.DoubleFunction",
    interface "java.util.function.DoublePredicate",
    interface "java.util.function.DoubleSupplier",
    interface "java.util.function.DoubleToIntFunction",
    interface "java.util.function.DoubleToLongFunction",
    interface "java.util.function.DoubleUnaryOperator",
    interface "java.util.function.Function",
    interface "java.util.function.IntBinaryOperator",
    interface "java.util.function.IntConsumer",
    interface "java.util.function.IntFunction",
    interface "java.util.function.IntPredicate",
    interface "java.util.function.IntSupplier",
    interface "java.util.function.IntToDoubleFunction",
    interface "java.util.function.IntToLongFunction",
    interface "java.util.function.IntUnaryOperator",
    interface "java.util.function.LongBinaryOperator",
    interface "java.util.function.LongConsumer",
    interface "java.util.function.LongFunction",
    interface "java.util.function.LongPredicate",
    interface "java.util.function.LongSupplier",
    interface "java.util.function.LongToDoubleFunction",
    interface "java.util.function.LongToIntFunction",
    interface "java.util.function.LongUnaryOperator",
    interface "java.util.function.ObjDoubleConsumer",
    interface "java.util.function.ObjIntConsumer",
    interface "java.util.function.ObjLongConsumer",
    interface "java.util.function.Predicate",
    interface "java.util.function.Supplier",
    interface "java.util.function.ToDoubleBiFunction",
    interface "java.util.function.ToDoubleFunction",
    interface "java.util.function.ToIntBiFunction",
    interface "java.util.function.ToIntFunction",
    interface "java.util.function.ToLongBiFunction",
    interface "java.util.function.ToLongFunction",
    interface "java.util.function.UnaryOperator" ["java.util.function.Function"],
    interface "java.util.function.BinaryOperator" ["java.util.function.BiFunction"] ]

/-- All known types of the standard library. -/
def all : List StandardType :=
  langTypes ++ streamTypes ++ utilTypes ++ functionTypes

end StandardType

/-- The index of the standard library alone. -/
def TypeIndex.standard : TypeIndex :=
  StandardType.all.foldl
    (fun index type => index.insertResolved type.name type.kind type.superclass type.interfaces) {}

end ClassCatalog
