import AgentScript.Sandbox.Object

set_option autoImplicit false

/-! # The modules that code can import

A module is known by its dotted path. Of what it holds, numbers and texts have values here; the rest
is known by name only. A package can have further modules below it. -/

namespace AgentScript.Sandbox

/-- A module that can be imported. -/
structure Module where
  path : String
  /-- What failures call it. -/
  title : String
  isPackage : Bool := false
  constants : List (String × Value) := []
  /-- The modules that it holds, by the path of each. -/
  parts : List (String × String) := []
  /-- The kinds of failure that it holds under names of its own. -/
  kinds : List (String × String) := []
  /-- The names of all else that it holds, with blanks between them. -/
  tools : String := ""

/-! ## What there is -/

/-- The tools for structured text. -/
def jsonModule : Module where
  path := "json"
  title := "json"
  isPackage := true
  parts := [("decoder", "json.decoder"), ("encoder", "json.encoder"), ("scanner", "json.scanner"),
    ("tool", "json.tool")]
  tools :=
    "JSONDecodeError JSONDecoder JSONEncoder detect_encoding dump dumps load loads"

/-- Reading structured text. -/
def jsonDecoderModule : Module where
  path := "json.decoder"
  title := "json.decoder"
  constants := [("NaN", .float (0.0 / 0.0)), ("PosInf", .float (1.0 / 0.0)),
    ("NegInf", .float (-1.0 / 0.0)), ("WHITESPACE_STR", .str " \t\n\r")]
  parts := [("scanner", "json.scanner")]
  tools :=
    "BACKSLASH FLAGS JSONArray JSONDecodeError JSONDecoder JSONObject STRINGCHUNK " ++
    "WHITESPACE c_scanstring py_scanstring scanstring"

/-- Writing structured text. -/
def jsonEncoderModule : Module where
  path := "json.encoder"
  title := "json.encoder"
  constants := [("INFINITY", .float (1.0 / 0.0))]
  tools :=
    "ESCAPE ESCAPE_ASCII ESCAPE_DCT HAS_UTF8 JSONEncoder c_encode_basestring " ++
    "c_encode_basestring_ascii c_make_encoder encode_basestring encode_basestring_ascii " ++
    "py_encode_basestring py_encode_basestring_ascii"

/-- The tokens of structured text. -/
def jsonScannerModule : Module where
  path := "json.scanner"
  title := "json.scanner"
  tools :=
    "NUMBER_RE c_make_scanner make_scanner py_make_scanner"

/-- A program that lays structured text out. -/
def jsonToolModule : Module where
  path := "json.tool"
  title := "json.tool"
  parts := [("json", "json")]
  tools :=
    "Path main"

/-- Functions of real numbers. -/
def mathModule : Module where
  path := "math"
  title := "math"
  constants := [("pi", .float 3.141592653589793), ("e", .float 2.718281828459045),
    ("tau", .float 6.283185307179586), ("inf", .float (1.0 / 0.0)), ("nan", .float (0.0 / 0.0))]
  tools :=
    "acos acosh asin asinh atan atan2 atanh cbrt ceil comb copysign cos cosh degrees dist " ++
    "erf erfc exp exp2 expm1 fabs factorial floor fmod frexp fsum gamma gcd hypot isclose " ++
    "isfinite isinf isnan isqrt lcm ldexp lgamma log log10 log1p log2 modf nextafter perm " ++
    "pow prod radians remainder sin sinh sqrt tan tanh trunc ulp"

/-- Containers. -/
def collectionsModule : Module where
  path := "collections"
  title := "collections"
  isPackage := true
  parts := [("abc", "collections.abc")]
  tools :=
    "ChainMap Counter OrderedDict UserDict UserList UserString defaultdict deque " ++
    "namedtuple"

/-- What containers have in common. -/
def collectionsAbcModule : Module where
  path := "collections.abc"
  title := "collections.abc"
  tools :=
    "AsyncGenerator AsyncIterable AsyncIterator Awaitable ByteString Callable Collection " ++
    "Container Coroutine Generator Hashable ItemsView Iterable Iterator KeysView Mapping " ++
    "MappingView MutableMapping MutableSequence MutableSet Reversible Sequence Set Sized " ++
    "ValuesView"

/-- The texts by which paths are written. -/
def pathConstants : List (String × Value) :=
  [("curdir", .str "."), ("pardir", .str ".."), ("extsep", .str "."), ("sep", .str "/"),
   ("pathsep", .str ":"), ("defpath", .str "/bin:/usr/bin"), ("altsep", .null),
   ("devnull", .str "/dev/null")]

/-- The flags and limits of the operating system. -/
def systemNumbers : List (String × Int) :=
  [("F_OK", 0), ("R_OK", 4), ("W_OK", 2), ("X_OK", 1), ("NGROUPS_MAX", 65536), ("TMP_MAX", 238328),
   ("WCONTINUED", 8), ("WNOHANG", 1), ("WUNTRACED", 2), ("O_RDONLY", 0), ("O_WRONLY", 1),
   ("O_RDWR", 2), ("O_NDELAY", 2048), ("O_NONBLOCK", 2048), ("O_APPEND", 1024), ("O_DSYNC", 4096),
   ("O_RSYNC", 1052672), ("O_SYNC", 1052672), ("O_NOCTTY", 256), ("O_CREAT", 64), ("O_EXCL", 128),
   ("O_TRUNC", 512), ("O_LARGEFILE", 0), ("O_PATH", 2097152), ("O_TMPFILE", 4259840),
   ("PRIO_PROCESS", 0), ("PRIO_PGRP", 1), ("PRIO_USER", 2), ("O_CLOEXEC", 524288), ("O_ACCMODE", 3),
   ("O_FSYNC", 1052672), ("SEEK_HOLE", 4), ("SEEK_DATA", 3), ("O_ASYNC", 8192), ("O_DIRECT", 16384),
   ("O_DIRECTORY", 65536), ("O_NOFOLLOW", 131072), ("O_NOATIME", 262144), ("EX_OK", 0),
   ("EX_USAGE", 64), ("EX_DATAERR", 65), ("EX_NOINPUT", 66), ("EX_NOUSER", 67), ("EX_NOHOST", 68),
   ("EX_UNAVAILABLE", 69), ("EX_SOFTWARE", 70), ("EX_OSERR", 71), ("EX_OSFILE", 72),
   ("EX_CANTCREAT", 73), ("EX_IOERR", 74), ("EX_TEMPFAIL", 75), ("EX_PROTOCOL", 76),
   ("EX_NOPERM", 77), ("EX_CONFIG", 78), ("ST_RDONLY", 1), ("ST_NOSUID", 2), ("ST_NODEV", 4),
   ("ST_NOEXEC", 8), ("ST_SYNCHRONOUS", 16), ("ST_MANDLOCK", 64), ("ST_WRITE", 128),
   ("ST_APPEND", 256), ("ST_NOATIME", 1024), ("ST_NODIRATIME", 2048), ("ST_RELATIME", 4096),
   ("POSIX_FADV_NORMAL", 0), ("POSIX_FADV_SEQUENTIAL", 2), ("POSIX_FADV_RANDOM", 1),
   ("POSIX_FADV_NOREUSE", 5), ("POSIX_FADV_WILLNEED", 3), ("POSIX_FADV_DONTNEED", 4), ("P_PID", 1),
   ("P_PGID", 2), ("P_ALL", 0), ("WEXITED", 4), ("WNOWAIT", 16777216), ("WSTOPPED", 2),
   ("CLD_EXITED", 1), ("CLD_KILLED", 2), ("CLD_DUMPED", 3), ("CLD_TRAPPED", 4), ("CLD_STOPPED", 5),
   ("CLD_CONTINUED", 6), ("F_LOCK", 1), ("F_TLOCK", 2), ("F_ULOCK", 0), ("F_TEST", 3),
   ("SPLICE_F_MOVE", 1), ("SPLICE_F_NONBLOCK", 2), ("SPLICE_F_MORE", 4), ("POSIX_SPAWN_OPEN", 0),
   ("POSIX_SPAWN_CLOSE", 1), ("POSIX_SPAWN_DUP2", 2), ("SCHED_OTHER", 0), ("SCHED_FIFO", 1),
   ("SCHED_RR", 2), ("SCHED_BATCH", 3), ("SCHED_IDLE", 5), ("SCHED_RESET_ON_FORK", 1073741824),
   ("XATTR_CREATE", 1), ("XATTR_REPLACE", 2), ("XATTR_SIZE_MAX", 65536), ("RTLD_LAZY", 1),
   ("RTLD_NOW", 2), ("RTLD_GLOBAL", 256), ("RTLD_LOCAL", 0), ("RTLD_NODELETE", 4096),
   ("RTLD_NOLOAD", 4), ("RTLD_DEEPBIND", 8), ("EFD_CLOEXEC", 524288), ("EFD_NONBLOCK", 2048),
   ("EFD_SEMAPHORE", 1), ("SEEK_SET", 0), ("SEEK_CUR", 1), ("SEEK_END", 2), ("P_WAIT", 0),
   ("P_NOWAIT", 1), ("P_NOWAITO", 1)]

/-- The operating system. -/
def osModule : Module where
  path := "os"
  title := "os"
  constants := pathConstants ++ [("name", .str "posix"), ("linesep", .str "\n"),
    ("supports_bytes_environ", .bool true)] ++ systemNumbers.map fun (n, v) => (n, .int v)
  parts := [("path", "os.path")]
  kinds := [("error", "OSError")]
  tools :=
    "DirEntry GenericAlias Mapping MutableMapping PathLike WCOREDUMP WEXITSTATUS " ++
    "WIFCONTINUED WIFEXITED WIFSIGNALED WIFSTOPPED WSTOPSIG WTERMSIG abort access chdir " ++
    "chmod chown chroot close closerange confstr confstr_names cpu_count ctermid " ++
    "device_encoding dup dup2 environ environb eventfd eventfd_read eventfd_write execl " ++
    "execle execlp execlpe execv execve execvp execvpe fchdir fchmod fchown fdatasync " ++
    "fdopen fork forkpty fpathconf fsdecode fsencode fspath fstat fstatvfs fsync " ++
    "ftruncate fwalk get_blocking get_exec_path get_inheritable get_terminal_size getcwd " ++
    "getcwdb getegid getenv getenvb geteuid getgid getgrouplist getgroups getloadavg " ++
    "getlogin getpgid getpgrp getpid getppid getpriority getresgid getresuid getsid " ++
    "getuid getxattr initgroups isatty kill killpg lchown link listdir listxattr lockf " ++
    "login_tty lseek lstat major makedev makedirs minor mkdir mkfifo mknod nice open " ++
    "openpty pathconf pathconf_names pipe pipe2 popen posix_fadvise posix_fallocate " ++
    "posix_spawn posix_spawnp pread preadv putenv pwrite pwritev read readlink readv " ++
    "register_at_fork remove removedirs removexattr rename renames replace rmdir scandir " ++
    "sched_get_priority_max sched_get_priority_min sched_getaffinity sched_getparam " ++
    "sched_getscheduler sched_param sched_rr_get_interval sched_setaffinity " ++
    "sched_setparam sched_setscheduler sched_yield sendfile set_blocking set_inheritable " ++
    "setegid seteuid setgid setgroups setpgid setpgrp setpriority setregid setresgid " ++
    "setresuid setreuid setsid setuid setxattr spawnl spawnle spawnlp spawnlpe spawnv " ++
    "spawnve spawnvp spawnvpe splice stat stat_result statvfs statvfs_result strerror " ++
    "supports_dir_fd supports_effective_ids supports_fd supports_follow_symlinks symlink " ++
    "sync sysconf sysconf_names system tcgetpgrp tcsetpgrp terminal_size times " ++
    "times_result truncate ttyname umask uname uname_result unlink unsetenv urandom utime " ++
    "wait wait3 wait4 waitid waitid_result waitpid waitstatus_to_exitcode walk write " ++
    "writev"

/-- Paths of files. -/
def osPathModule : Module where
  path := "os.path"
  title := "posixpath"
  constants := pathConstants ++ [("supports_unicode_filenames", .bool false)]
  parts := [("os", "os")]
  tools :=
    "abspath basename commonpath commonprefix dirname exists expanduser expandvars " ++
    "getatime getctime getmtime getsize isabs isdir isfile islink ismount join lexists " ++
    "normcase normpath realpath relpath samefile sameopenfile samestat split splitdrive " ++
    "splitext"

/-- All modules. -/
def allModules : List Module :=
  [jsonModule, jsonDecoderModule, jsonEncoderModule, jsonScannerModule, jsonToolModule, mathModule,
    collectionsModule, collectionsAbcModule, osModule, osPathModule]

/-! ## Finding things -/

/-- The module at a path. -/
def Module.at? (path : String) : Option Module :=
  allModules.find? fun m => m.path == path

/-- What a module holds under a name. -/
def Module.member? (m : Module) (name : String) : Option Object :=
  match m.constants.lookup name, m.parts.lookup name, m.kinds.lookup name with
  | some v, _, _ => some (.value v)
  | none, some path, _ => some (.module path)
  | none, none, some kind => some (.kind kind)
  | none, none, none =>
    if name == "__name__" then some (.value (.str m.title))
    else if (Text.splitOnChar ' ' m.tools.toList).contains name.toList then some (.other "function")
    else none

/-- Import the module at a path, given by its parts: every module on the way must exist, and all but
    the last one must be packages. -/
def importPath (path : List String) : Except Failure Module :=
  go none path
where
  go (parent : Option Module) : List String → Except Failure Module
    | [] => parent.elim (.error (missing "" none)) .ok
    | part :: rest =>
      let path := (parent.elim "" fun m => m.path ++ ".") ++ part
      match Module.at? path with
      | some m => go (some m) rest
      | none => .error (missing path parent)
  missing (path : String) (parent : Option Module) : Failure :=
    let reason := match parent with
      | some m => if m.isPackage then "" else "; '" ++ m.path ++ "' is not a package"
      | none => ""
    codeFailure "ModuleNotFoundError" ("No module named '" ++ path ++ "'" ++ reason)

/-- What an import of a name from a module binds: something that the module holds, or a module below
    it. -/
def Module.importName (m : Module) (name : String) : Except Failure Object :=
  match m.member? name, Module.at? (m.path ++ "." ++ name) with
  | some o, _ => .ok o
  | none, some below => .ok (.module below.path)
  | none, none =>
    .error (codeFailure "ImportError"
      ("cannot import name '" ++ name ++ "' from '" ++ m.title ++ "' (unknown location)"))

end AgentScript.Sandbox
