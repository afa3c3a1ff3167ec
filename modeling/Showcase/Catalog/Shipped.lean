/-!
# The shipped samples

The files of the samples that the built-in catalog lists.  They stand in one directory, and the
name of a file is the key of its entry.
-/

namespace Showcase

/-- A text of lines, each ended by a line feed. -/
def Shipped.textOf (lines : List String) : String := String.join (lines.map (· ++ "\n"))

/-- The lines of `hello_world.rs`. -/
def Shipped.helloWorld : List String := [
  "fn main() \x7b",
  "    println!(\"Hello, world!\");",
  "\x7d"]

/-- The lines of `variables.rs`. -/
def Shipped.variables : List String := [
  "const MAX_POINTS: u32 = 100_000;",
  "",
  "fn main() \x7b",
  "    let x = 5;",
  "    println!(\"x = \x7bx\x7d\");",
  "",
  "    // shadowing creates a new binding",
  "    let x = x * 2;",
  "    println!(\"shadowed x = \x7bx\x7d\");",
  "",
  "    let mut count = 0;",
  "    count += 1;",
  "    println!(\"count = \x7bcount\x7d, max = \x7bMAX_POINTS\x7d\");",
  "",
  "    let spaces = \"   \";",
  "    let spaces = spaces.len();",
  "    println!(\"spaces = \x7bspaces\x7d\");",
  "\x7d"]

/-- The lines of `fizzbuzz.rs`. -/
def Shipped.fizzbuzz : List String := [
  "fn main() \x7b",
  "    for n in 1..=30 \x7b",
  "        match (n % 3, n % 5) \x7b",
  "            (0, 0) => println!(\"FizzBuzz\"),",
  "            (0, _) => println!(\"Fizz\"),",
  "            (_, 0) => println!(\"Buzz\"),",
  "            _ => println!(\"\x7bn\x7d\"),",
  "        \x7d",
  "    \x7d",
  "\x7d"]

/-- The lines of `guessing_game.rs`. -/
def Shipped.guessingGame : List String := [
  "use std::cmp::Ordering;",
  "use std::io::\x7bself, BufRead, Write\x7d;",
  "",
  "fn main() \x7b",
  "    let secret = 42;",
  "    let stdin = io::stdin();",
  "",
  "    loop \x7b",
  "        print!(\"Guess a number: \");",
  "        io::stdout().flush().ok();",
  "",
  "        let mut line = String::new();",
  "        if stdin.lock().read_line(&mut line).unwrap_or(0) == 0 \x7b",
  "            break;",
  "        \x7d",
  "",
  "        let guess: u32 = match line.trim().parse() \x7b",
  "            Ok(n) => n,",
  "            Err(_) => continue,",
  "        \x7d;",
  "",
  "        match guess.cmp(&secret) \x7b",
  "            Ordering::Less => println!(\"Too small!\"),",
  "            Ordering::Greater => println!(\"Too big!\"),",
  "            Ordering::Equal => \x7b",
  "                println!(\"You win!\");",
  "                break;",
  "            \x7d",
  "        \x7d",
  "    \x7d",
  "\x7d"]

/-- The lines of `closures.rs`. -/
def Shipped.closures : List String := [
  "fn apply<F: Fn(i32) -> i32>(f: F, value: i32) -> i32 \x7b",
  "    f(value)",
  "\x7d",
  "",
  "fn make_adder(n: i32) -> impl Fn(i32) -> i32 \x7b",
  "    move |x| x + n",
  "\x7d",
  "",
  "fn main() \x7b",
  "    let factor = 3;",
  "    let triple = |x| x * factor;",
  "    println!(\"\x7b\x7d\", apply(triple, 7));",
  "",
  "    let add_five = make_adder(5);",
  "    println!(\"\x7b\x7d\", add_five(10));",
  "",
  "    let mut calls = 0;",
  "    let mut counter = || calls += 1;",
  "    counter();",
  "    counter();",
  "    println!(\"called \x7bcalls\x7d times\");",
  "\x7d"]

/-- The lines of `structs.rs`. -/
def Shipped.structs : List String := [
  "#[derive(Debug)]",
  "struct Rectangle \x7b",
  "    width: u32,",
  "    height: u32,",
  "\x7d",
  "",
  "impl Rectangle \x7b",
  "    fn square(size: u32) -> Self \x7b",
  "        Self \x7b",
  "            width: size,",
  "            height: size,",
  "        \x7d",
  "    \x7d",
  "",
  "    fn area(&self) -> u32 \x7b",
  "        self.width * self.height",
  "    \x7d",
  "",
  "    fn can_hold(&self, other: &Rectangle) -> bool \x7b",
  "        self.width > other.width && self.height > other.height",
  "    \x7d",
  "\x7d",
  "",
  "fn main() \x7b",
  "    let rect = Rectangle \x7b",
  "        width: 30,",
  "        height: 50,",
  "    \x7d;",
  "    let sq = Rectangle::square(10);",
  "",
  "    println!(\"\x7brect:?\x7d has area \x7b\x7d\", rect.area());",
  "    println!(\"can hold square: \x7b\x7d\", rect.can_hold(&sq));",
  "\x7d"]

/-- The lines of `enums.rs`. -/
def Shipped.enums : List String := [
  "enum Shape \x7b",
  "    Circle \x7b radius: f64 \x7d,",
  "    Rect \x7b w: f64, h: f64 \x7d,",
  "    Point,",
  "\x7d",
  "",
  "impl Shape \x7b",
  "    fn area(&self) -> f64 \x7b",
  "        match self \x7b",
  "            Shape::Circle \x7b radius \x7d => std::f64::consts::PI * radius * radius,",
  "            Shape::Rect \x7b w, h \x7d => w * h,",
  "            Shape::Point => 0.0,",
  "        \x7d",
  "    \x7d",
  "\x7d",
  "",
  "fn main() \x7b",
  "    let shapes = [",
  "        Shape::Circle \x7b radius: 1.0 \x7d,",
  "        Shape::Rect \x7b w: 2.0, h: 3.0 \x7d,",
  "        Shape::Point,",
  "    ];",
  "    for shape in &shapes \x7b",
  "        println!(\"area = \x7b:.2\x7d\", shape.area());",
  "    \x7d",
  "",
  "    let maybe: Option<u8> = Some(3);",
  "    if let Some(n) = maybe \x7b",
  "        println!(\"got \x7bn\x7d\");",
  "    \x7d",
  "\x7d"]

/-- The lines of `traits.rs`. -/
def Shipped.traits : List String := [
  "use std::fmt::Display;",
  "",
  "trait Summary \x7b",
  "    fn author(&self) -> String;",
  "",
  "    fn summarize(&self) -> String \x7b",
  "        format!(\"(Read more from \x7b\x7d...)\", self.author())",
  "    \x7d",
  "\x7d",
  "",
  "struct Post \x7b",
  "    user: String,",
  "    body: String,",
  "\x7d",
  "",
  "impl Summary for Post \x7b",
  "    fn author(&self) -> String \x7b",
  "        format!(\"@\x7b\x7d\", self.user)",
  "    \x7d",
  "\x7d",
  "",
  "fn notify(item: &impl Summary) \x7b",
  "    println!(\"Breaking news! \x7b\x7d\", item.summarize());",
  "\x7d",
  "",
  "fn largest<T: PartialOrd + Display + Copy>(items: &[T]) -> T \x7b",
  "    let mut largest = items[0];",
  "    for &item in items \x7b",
  "        if item > largest \x7b",
  "            largest = item;",
  "        \x7d",
  "    \x7d",
  "    largest",
  "\x7d",
  "",
  "fn main() \x7b",
  "    let post = Post \x7b",
  "        user: \"rustacean\".to_string(),",
  "        body: \"traits are great\".to_string(),",
  "    \x7d;",
  "    notify(&post);",
  "    println!(\"\x7b\x7d\", post.body);",
  "    println!(\"largest = \x7b\x7d\", largest(&[3, 9, 4]));",
  "\x7d"]

/-- The lines of `error_handling.rs`. -/
def Shipped.errorHandling : List String := [
  "use std::fmt;",
  "use std::num::ParseIntError;",
  "",
  "#[derive(Debug)]",
  "enum AgeError \x7b",
  "    Parse(ParseIntError),",
  "    OutOfRange(i64),",
  "\x7d",
  "",
  "impl fmt::Display for AgeError \x7b",
  "    fn fmt(&self, f: &mut fmt::Formatter<'_>) -> fmt::Result \x7b",
  "        match self \x7b",
  "            AgeError::Parse(e) => write!(f, \"not a number: \x7be\x7d\"),",
  "            AgeError::OutOfRange(n) => write!(f, \"\x7bn\x7d is not a plausible age\"),",
  "        \x7d",
  "    \x7d",
  "\x7d",
  "",
  "impl From<ParseIntError> for AgeError \x7b",
  "    fn from(e: ParseIntError) -> Self \x7b",
  "        AgeError::Parse(e)",
  "    \x7d",
  "\x7d",
  "",
  "fn parse_age(input: &str) -> Result<u8, AgeError> \x7b",
  "    let n: i64 = input.trim().parse()?;",
  "    u8::try_from(n)",
  "        .ok()",
  "        .filter(|age| *age <= 150)",
  "        .ok_or(AgeError::OutOfRange(n))",
  "\x7d",
  "",
  "fn main() \x7b",
  "    for input in [\"42\", \"abc\", \"900\"] \x7b",
  "        match parse_age(input) \x7b",
  "            Ok(age) => println!(\"age: \x7bage\x7d\"),",
  "            Err(e) => println!(\"error: \x7be\x7d\"),",
  "        \x7d",
  "    \x7d",
  "\x7d"]

/-- The lines of `iterators.rs`. -/
def Shipped.iterators : List String := [
  "fn main() \x7b",
  "    let numbers = vec![1, 2, 3, 4, 5, 6];",
  "",
  "    let evens_squared: Vec<i32> = numbers",
  "        .iter()",
  "        .filter(|n| *n % 2 == 0)",
  "        .map(|n| n * n)",
  "        .collect();",
  "    println!(\"\x7bevens_squared:?\x7d\");",
  "",
  "    let total: i32 = numbers.iter().sum();",
  "    println!(\"sum = \x7btotal\x7d\");",
  "",
  "    let words = [\"alpha\", \"beta\", \"gamma\"];",
  "    for (i, word) in words.iter().enumerate() \x7b",
  "        println!(\"\x7bi\x7d: \x7bword\x7d\");",
  "    \x7d",
  "",
  "    let fib: Vec<u64> = std::iter::successors(Some((0u64, 1u64)), |&(a, b)| Some((b, a + b)))",
  "        .map(|(a, _)| a)",
  "        .take(10)",
  "        .collect();",
  "    println!(\"\x7bfib:?\x7d\");",
  "\x7d"]

/-- The lines of `threads.rs`. -/
def Shipped.threads : List String := [
  "use std::sync::mpsc;",
  "use std::thread;",
  "use std::time::Duration;",
  "",
  "fn main() \x7b",
  "    let (tx, rx) = mpsc::channel();",
  "",
  "    let handles: Vec<_> = (0..3)",
  "        .map(|id| \x7b",
  "            let tx = tx.clone();",
  "            thread::spawn(move || \x7b",
  "                for i in 0..3 \x7b",
  "                    tx.send(format!(\"worker \x7bid\x7d: message \x7bi\x7d\")).ok();",
  "                    thread::sleep(Duration::from_millis(10));",
  "                \x7d",
  "            \x7d)",
  "        \x7d)",
  "        .collect();",
  "    drop(tx);",
  "",
  "    for msg in rx \x7b",
  "        println!(\"\x7bmsg\x7d\");",
  "    \x7d",
  "    for handle in handles \x7b",
  "        handle.join().ok();",
  "    \x7d",
  "\x7d"]

/-- The lines of `shared_state.rs`. -/
def Shipped.sharedState : List String := [
  "use std::sync::\x7bArc, Mutex\x7d;",
  "use std::thread;",
  "",
  "fn main() \x7b",
  "    let counter = Arc::new(Mutex::new(0));",
  "    let mut handles = Vec::new();",
  "",
  "    for _ in 0..10 \x7b",
  "        let counter = Arc::clone(&counter);",
  "        handles.push(thread::spawn(move || \x7b",
  "            if let Ok(mut n) = counter.lock() \x7b",
  "                *n += 1;",
  "            \x7d",
  "        \x7d));",
  "    \x7d",
  "",
  "    for handle in handles \x7b",
  "        handle.join().ok();",
  "    \x7d",
  "",
  "    println!(\"Result: \x7b\x7d\", *counter.lock().unwrap());",
  "\x7d"]

/-- The shipped files by name. -/
def Shipped.files : List (String × String) := [
  ("hello_world.rs", Shipped.textOf Shipped.helloWorld),
  ("variables.rs", Shipped.textOf Shipped.variables),
  ("fizzbuzz.rs", Shipped.textOf Shipped.fizzbuzz),
  ("guessing_game.rs", Shipped.textOf Shipped.guessingGame),
  ("closures.rs", Shipped.textOf Shipped.closures),
  ("structs.rs", Shipped.textOf Shipped.structs),
  ("enums.rs", Shipped.textOf Shipped.enums),
  ("traits.rs", Shipped.textOf Shipped.traits),
  ("error_handling.rs", Shipped.textOf Shipped.errorHandling),
  ("iterators.rs", Shipped.textOf Shipped.iterators),
  ("threads.rs", Shipped.textOf Shipped.threads),
  ("shared_state.rs", Shipped.textOf Shipped.sharedState)]

/-- The directory in which the shipped files stand. -/
def Shipped.dir : String := "/shipped-samples"

end Showcase
