import MediaProxy.Domain.Span

/-!
# What characters become in a domain name

The table behind `Domain.mapped?`. In a run of it all characters are kept (`K`), or none is
admitted (`X`), or each of them becomes the same text (`T`, with the code points of the text, which
may be none), or they become the characters that follow one another from a given one (`S`), or every
other one, the first included, becomes its successor while the others are kept (`P`).
-/

namespace MediaProxy.Domain

/-- What becomes of the characters of a **run**. -/
inductive Fate where
  | kept
  | refused
  | replaced (text : Text)
  | shifted (target : Nat)
  | paired
  deriving DecidableEq, Repr

/-- What a word of the table says. -/
def Fate.read : Char → List Nat → Fate
  | 'K', _ => .kept
  | 'T', text => .replaced (text.map Char.ofNat)
  | 'S', [target] => .shifted target
  | 'P', _ => .paired
  | _, _ => .refused

/-- What becomes of the characters beyond ASCII. A character that is not in the table is not
admitted. -/
def fates : Spans Fate := .read Fate.read
  "X20 T1.20 K7 T1.20.308 K1 T1.61 K2 T1 K1 T1.20.304 K2 S2.32 T1.20.301 T1.3bc K2 T1.20.327
  T1.31 T1.6f K1 T1.31.2044.34 T1.31.2044.32 T1.33.2044.34 K1 S17.e0 K1 S7.f8 K21 P2f K1
  T1.69.307 K1 T2.69.6a P3 K2 P5 K1 T2.6c.b7 P7 K1 T1.2bc.6e P2d K1 T1.ff P5 K1 T1.73 K1 T1.253
  P3 K1 T1.254 T1.188 K1 S2.256 T1.18c K2 T1.1dd T1.259 T1.25b T1.192 K1 T1.260 T1.263 K1 T1.269
  T1.268 T1.199 K3 T1.26f T1.272 K1 T1.275 P5 K1 T1.280 T1.1a8 K1 T1.283 K2 T1.1ad K1 T1.288
  T1.1b0 K1 S2.28a P3 K1 T1.292 T1.1b9 K3 T1.1bd K7 T3.64.17e T3.6c.6a T3.6e.6a Pf K2 P11 K2
  T3.64.7a T1.1f5 K1 T1.195 T1.1bf P27 K1 T1.19e K1 P11 K7 T1.2c65 T1.23c K1 T1.19a T1.2c66 K2
  T1.242 K1 T1.180 T1.289 T1.28c P9 K61 T1.68 T1.266 T1.6a T1.72 T1.279 T1.27b T1.281 T1.77
  T1.79 K1f T1.20.306 T1.20.307 T1.20.30a T1.20.328 T1.20.303 T1.20.30b K2 T1.263 T1.6c T1.73
  T1.78 T1.295 K5b S2.300 K1 T1.313 T1.308.301 T1.3b9 K9 T1 K20 P3 K1 T1.2b9 K1 T1.377 K1 X2
  T1.20.3b9 K3 T1.3b T1.3f3 X4 T1.20.301 T1.20.308.301 T1.3ac T1.b7 S3.3ad X1 T1.3cc X1 S2.3cd
  K1 S11.3b1 X1 S9.3c3 K23 T1.3d7 T1.3b2 T1.3b8 T1.3c5 T1.3cd T1.3cb T1.3c6 T1.3c0 K1 P17 K1
  T1.3ba T1.3c1 T1.3c3 K1 T1.3b8 T1.3b5 K1 T1.3f8 K1 T1.3c3 T1.3fb K2 S3.37b S10.450 S20.430 K30
  P21 K9 P35 K1 T1.4cf Pd K2 P5f K1 X1 S26.561 X2 K2e T1.565.582 K3 X2 K3 X1 K37 X8 K1b X4 K6
  X11 K16 X1 K58 T1.627.674 T1.648.674 T1.6c7.674 T1.64a.674 K64 X1 K30 X2 K3b X2 K65 Xe K3b X2
  K31 X2 Kf X1 K1c X2 K1 X1 Kb X5 K20 X7 K4b X1 K75 T1.915.93c T1.916.93c T1.917.93c T1.91c.93c
  T1.921.93c T1.922.93c T1.92b.93c T1.92f.93c K24 X1 K8 X2 K2 X2 K16 X1 K7 X1 K1 X3 K4 X2 K9 X2
  K2 X2 K4 X8 K1 X4 T1.9a1.9bc T1.9a2.9bc X1 T1.9af.9bc K4 X2 K19 X2 K3 X1 K6 X4 K2 X2 K16 X1 K7
  X1 K1 T1.a32.a3c X1 K1 T1.a38.a3c X1 K2 X2 K1 X1 K5 X4 K2 X2 K3 X3 K1 X7 T1.a16.a3c T1.a17.a3c
  T1.a1c.a3c K1 X1 T1.a2b.a3c X7 K11 Xa K3 X1 K9 X1 K3 X1 K16 X1 K7 X1 K2 X1 K5 X2 Ka X1 K3 X1
  K3 X2 K1 Xf K4 X2 Kc X7 K7 X1 K3 X1 K8 X2 K2 X2 K16 X1 K7 X1 K2 X1 K5 X2 K9 X2 K2 X2 K3 X7 K3
  X4 T1.b21.b3c T1.b22.b3c X1 K5 X2 K12 Xa K2 X1 K6 X3 K3 X1 K4 X3 K2 X1 K1 X1 K2 X3 K2 X3 K3 X3
  Kc X4 K5 X3 K3 X1 K4 X2 K1 X6 K1 Xe K15 X5 Kd X1 K3 X1 K17 X1 K10 X2 K9 X1 K3 X1 K4 X7 K2 X1
  K3 X1 K2 X2 K4 X2 Ka X7 K16 X1 K3 X1 K17 X1 Ka X1 K5 X2 K9 X1 K3 X1 K4 X7 K2 X5 K3 X1 K4 X2 Ka
  X1 K3 Xc Kd X1 K3 X1 K33 X1 K3 X1 K6 X4 K10 X2 K1a X1 K3 X1 K12 X3 K18 X1 K9 X1 K1 X2 K7 X3 K1
  X4 K6 X1 K1 X1 K8 X6 Ka X2 K3 Xc K32 T1.e4d.e32 K7 X4 K1d X25 K2 X1 K1 X1 K5 X1 K18 X1 K1 X1
  Kc T1.ecd.eb2 Ka X2 K5 X1 K1 X1 K7 X1 Ka X2 T1.eab.e99 T1.eab.ea1 K2 X20 Kc T1.f0b K36
  T1.f42.fb7 K4 X1 K4 T1.f4c.fb7 K4 T1.f51.fb7 K4 T1.f56.fb7 K4 T1.f5b.fb7 Kc T1.f40.fb5 K3 X4
  K2 T1.f71.f72 K1 T1.f71.f74 T1.fb2.f80 T1.fb2.f71.f80 T1.fb3.f80 T1.fb3.f71.f80 K7 T1.f71.f80
  K11 T1.f92.fb7 K4 X1 K4 T1.f9c.fb7 K4 T1.fa1.fb7 K4 T1.fa6.fb7 K4 T1.fab.fb7 Kc T1.f90.fb5 K3
  X1 Kf X1 Kd X25 Ka0 S26.2d00 X1 T1.2d27 X5 T1.2d2d X2 K2c T1.10dc K62 T2 Ke8 X1 K4 X2 K7 X1 K1
  X1 K4 X2 K29 X1 K4 X2 K21 X1 K4 X2 K7 X1 K1 X1 K4 X2 Kf X1 K39 X1 K4 X2 K43 X2 K20 X3 K1a X6
  K56 X2 S6.13f0 X2 K280 X1 K1c X3 K59 X7 K16 X9 K18 X9 K14 Xc Kd X1 K3 X1 K2 Xc K34 T2 K28 X2
  Ka X6 Ka X6 Kb T5 Ka X6 K59 X7 K2b X5 K46 Xa K1f X1 Kc X4 Kc X4 K1 X3 K2a X2 K5 Xb K2c X4 K1a
  X6 Kb X3 K3e X2 K41 X1 K1d X2 Kb X6 Ka X6 Ke X2 K2e X2 Kc X14 K4d X1 Ka6 X8 K3c X3 Kf X3 K33
  T1.432 T1.434 T1.43e S2.441 T1.442 T1.44a T1.463 T1.a64b T1.1c8a K1 X5 S2b.10d0 X2 S3.10fd K8
  X8 K2b X5 K2c T1.61 T1.e6 T1.62 K1 S2.64 T1.1dd S8.67 K1 T1.6f T1.223 T1.70 T1.72 S2.74 T1.77
  T1.61 S2.250 T1.1d02 T1.62 S2.64 T1.259 S2.25b T1.67 K1 T1.6b T1.6d T1.14b T1.6f T1.254
  S2.1d16 T1.70 S2.74 T1.1d1d T1.26f T1.76 T1.1d25 S3.3b2 S2.3c6 T1.69 T1.72 S2.75 S2.3b2 T1.3c1
  S2.3c6 Kd T1.43d K22 T1.252 T1.63 T1.255 T1.f0 T1.25c T1.66 T1.25f T1.261 T1.265 S3.268
  T1.1d7b T1.29d T1.26d T1.1d85 T1.29f T1.271 T1.270 S4.272 T1.278 S2.282 T1.1ab S2.289 T1.1d1c
  S2.28b T1.7a S3.290 T1.3b8 K40 P95 K5 T1.61.2be T1.1e61 K2 T1.df K1 P5f K9 S8.1f00 K6 X2
  S6.1f10 X2 K8 S8.1f20 K8 S8.1f30 K6 X2 S6.1f40 X2 K8 X1 T1.1f51 X1 T1.1f53 X1 T1.1f55 X1
  T1.1f57 K8 S8.1f60 K1 T1.3ac K1 T1.3ad K1 T1.3ae K1 T1.3af K1 T1.3cc K1 T1.3cd K1 T1.3ce X2
  T1.1f00.3b9 T1.1f01.3b9 T1.1f02.3b9 T1.1f03.3b9 T1.1f04.3b9 T1.1f05.3b9 T1.1f06.3b9
  T1.1f07.3b9 T1.1f00.3b9 T1.1f01.3b9 T1.1f02.3b9 T1.1f03.3b9 T1.1f04.3b9 T1.1f05.3b9
  T1.1f06.3b9 T1.1f07.3b9 T1.1f20.3b9 T1.1f21.3b9 T1.1f22.3b9 T1.1f23.3b9 T1.1f24.3b9
  T1.1f25.3b9 T1.1f26.3b9 T1.1f27.3b9 T1.1f20.3b9 T1.1f21.3b9 T1.1f22.3b9 T1.1f23.3b9
  T1.1f24.3b9 T1.1f25.3b9 T1.1f26.3b9 T1.1f27.3b9 T1.1f60.3b9 T1.1f61.3b9 T1.1f62.3b9
  T1.1f63.3b9 T1.1f64.3b9 T1.1f65.3b9 T1.1f66.3b9 T1.1f67.3b9 T1.1f60.3b9 T1.1f61.3b9
  T1.1f62.3b9 T1.1f63.3b9 T1.1f64.3b9 T1.1f65.3b9 T1.1f66.3b9 T1.1f67.3b9 K2 T1.1f70.3b9
  T1.3b1.3b9 T1.3ac.3b9 X1 K1 T1.1fb6.3b9 S2.1fb0 T1.1f70 T1.3ac T1.3b1.3b9 T1.20.313 T1.3b9
  T1.20.313 T1.20.342 T1.20.308.342 T1.1f74.3b9 T1.3b7.3b9 T1.3ae.3b9 X1 K1 T1.1fc6.3b9 T1.1f72
  T1.3ad T1.1f74 T1.3ae T1.3b7.3b9 T1.20.313.300 T1.20.313.301 T1.20.313.342 K3 T1.390 X2 K2
  S2.1fd0 T1.1f76 T1.3af X1 T1.20.314.300 T1.20.314.301 T1.20.314.342 K3 T1.3b0 K4 S2.1fe0
  T1.1f7a T1.3cd T1.1fe5 T1.20.308.300 T1.20.308.301 T1.60 X2 T1.1f7c.3b9 T1.3c9.3b9 T1.3ce.3b9
  X1 K1 T1.1ff6.3b9 T1.1f78 T1.3cc T1.1f7c T1.3ce T1.3c9.3b9 T1.20.301 T1.20.314 X1 Tb.20 T1 K2
  X2 K1 T1.2010 K5 T1.20.333 Kc X3 K1 X7 T1.20 K3 T1.2032.2032 T1.2032.2032.2032 K1 T1.2035.2035
  T1.2035.2035.2035 K4 T1.21.21 K1 T1.20.305 K8 T1.3f.3f T1.3f.21 T1.21.3f Kd
  T1.2032.2032.2032.2032 K7 T1.20 T5 X5 T6 T1.30 T1.69 X2 S6.34 T1.2b T1.2212 T1.3d S2.28 T1.6e
  Sa.30 T1.2b T1.2212 T1.3d S2.28 X1 T1.61 T1.65 T1.6f T1.78 T1.259 T1.68 S4.6b T1.70 S2.73 X3
  K8 T1.72.73 K19 Xe K21 Xf T1.61.2f.63 T1.61.2f.73 T1.63 T1.b0.63 K1 T1.63.2f.6f T1.63.2f.75
  T1.25b K1 T1.b0.66 S2.67 T3.68 T1.127 T2.69 T2.6c K1 T1.6e T1.6e.6f K2 S3.70 T2.72 K2 T1.73.6d
  T1.74.65.6c T1.74.6d K1 T1.7a K1 T1.3c9 K1 T1.7a K1 T1.6b T1.e5 S2.62 K1 T2.65 T1.66 T1.214e
  T1.6d T1.6f S4.5d0 T1.69 K1 T1.66.61.78 T1.3c0 T2.3b3 T1.3c0 T1.2211 K4 T2.64 T1.65 S2.69 K6
  T1.31.2044.37 T1.31.2044.39 T1.31.2044.31.30 T1.31.2044.33 T1.32.2044.33 T1.31.2044.35
  T1.32.2044.35 T1.33.2044.35 T1.34.2044.35 T1.31.2044.36 T1.35.2044.36 T1.31.2044.38
  T1.33.2044.38 T1.35.2044.38 T1.37.2044.38 T1.31.2044 T1.69 T1.69.69 T1.69.69.69 T1.69.76 T1.76
  T1.76.69 T1.76.69.69 T1.76.69.69.69 T1.69.78 T1.78 T1.78.69 T1.78.69.69 T1.6c S2.63 T1.6d
  T1.69 T1.69.69 T1.69.69.69 T1.69.76 T1.76 T1.76.69 T1.76.69.69 T1.76.69.69.69 T1.69.78 T1.78
  T1.78.69 T1.78.69.69 T1.6c S2.63 T1.6d K3 T1.2184 K5 T1.30.2044.33 K2 X4 K9c T1.222b.222b
  T1.222b.222b.222b K1 T1.222e.222e T1.222e.222e.222e Kf8 S2.3008 Kff X16 Kb X15 S9.31 T1.31.30
  T1.31.31 T1.31.32 T1.31.33 T1.31.34 T1.31.35 T1.31.36 T1.31.37 T1.31.38 T1.31.39 T1.32.30
  T1.28.31.29 T1.28.32.29 T1.28.33.29 T1.28.34.29 T1.28.35.29 T1.28.36.29 T1.28.37.29
  T1.28.38.29 T1.28.39.29 T1.28.31.30.29 T1.28.31.31.29 T1.28.31.32.29 T1.28.31.33.29
  T1.28.31.34.29 T1.28.31.35.29 T1.28.31.36.29 T1.28.31.37.29 T1.28.31.38.29 T1.28.31.39.29
  T1.28.32.30.29 X14 T1.28.61.29 T1.28.62.29 T1.28.63.29 T1.28.64.29 T1.28.65.29 T1.28.66.29
  T1.28.67.29 T1.28.68.29 T1.28.69.29 T1.28.6a.29 T1.28.6b.29 T1.28.6c.29 T1.28.6d.29
  T1.28.6e.29 T1.28.6f.29 T1.28.70.29 T1.28.71.29 T1.28.72.29 T1.28.73.29 T1.28.74.29
  T1.28.75.29 T1.28.76.29 T1.28.77.29 T1.28.78.29 T1.28.79.29 T1.28.7a.29 S1a.61 S1a.61 T1.30
  K521 T1.222b.222b.222b.222b K67 T1.3a.3a.3d T1.3d.3d T1.3d.3d.3d K65 T1.2add.338 K97 X2 K8a
  S30.2c30 K30 T1.2c61 K1 T1.26b T1.1d7d T1.27d K2 P5 K1 T1.251 T1.271 T1.250 T1.252 K1 T1.2c73
  K2 T1.2c76 K6 T1.6a T1.76 S2.23f P63 K8 P3 K4 T1.2cf3 K1 X5 K2d X1 K1 X5 K1 X2 K38 X7 T1.2d61
  K1 Xe K18 X9 K7 X1 K7 X1 K7 X1 K7 X1 K7 X1 K7 X1 K7 X1 K7 X1 K7e X22 K1a X1 K4 T1.6bcd K53
  T1.9f9f Xc T1.4e00 T1.4e28 T1.4e36 T1.4e3f T1.4e59 T1.4e85 T1.4e8c T1.4ea0 T1.4eba T1.513f
  T1.5165 T1.516b T1.5182 T1.5196 T1.51ab T1.51e0 T1.51f5 T1.5200 T1.529b T1.52f9 T1.5315
  T1.531a T1.5338 T1.5341 T1.535c T1.5369 T1.5382 T1.53b6 T1.53c8 T1.53e3 T1.56d7 T1.571f
  T1.58eb T1.5902 T1.590a T1.5915 T1.5927 T1.5973 T1.5b50 T1.5b80 T1.5bf8 T1.5c0f T1.5c22
  T1.5c38 T1.5c6e T1.5c71 T1.5ddb T1.5de5 T1.5df1 T1.5dfe T1.5e72 T1.5e7a T1.5e7f T1.5ef4
  T1.5efe T1.5f0b T1.5f13 T1.5f50 T1.5f61 T1.5f73 T1.5fc3 T1.6208 T1.6236 T1.624b T1.652f
  T1.6534 T1.6587 T1.6597 T1.65a4 T1.65b9 T1.65e0 T1.65e5 T1.66f0 T1.6708 T1.6728 T1.6b20
  T1.6b62 T1.6b79 T1.6bb3 T1.6bcb T1.6bd4 T1.6bdb T1.6c0f T1.6c14 T1.6c34 T1.706b T1.722a
  T1.7236 T1.723b T1.723f T1.7247 T1.7259 T1.725b T1.72ac T1.7384 T1.7389 T1.74dc T1.74e6
  T1.7518 T1.751f T1.7528 T1.7530 T1.758b T1.7592 T1.7676 T1.767d T1.76ae T1.76bf T1.76ee
  T1.77db T1.77e2 T1.77f3 T1.793a T1.79b8 T1.79be T1.7a74 T1.7acb T1.7af9 T1.7c73 T1.7cf8
  T1.7f36 T1.7f51 T1.7f8a T1.7fbd T1.8001 T1.800c T1.8012 T1.8033 T1.807f T1.8089 T1.81e3
  T1.81ea T1.81f3 T1.81fc T1.820c T1.821b T1.821f T1.826e T1.8272 T1.8278 T1.864d T1.866b
  T1.8840 T1.884c T1.8863 T1.897e T1.898b T1.89d2 T1.8a00 T1.8c37 T1.8c46 T1.8c55 T1.8c78
  T1.8c9d T1.8d64 T1.8d70 T1.8db3 T1.8eab T1.8eca T1.8f9b T1.8fb0 T1.8fb5 T1.9091 T1.9149
  T1.91c6 T1.91cc T1.91d1 T1.9577 T1.9580 T1.961c T1.96b6 T1.96b9 T1.96e8 T1.9751 T1.975e
  T1.9762 T1.9769 T1.97cb T1.97ed T1.97f3 T1.9801 T1.98a8 T1.98db T1.98df T1.9996 T1.9999
  T1.99ac T1.9aa8 T1.9ad8 T1.9adf T1.9b25 T1.9b2f T1.9b32 T1.9b3c T1.9b5a T1.9ce5 T1.9e75
  T1.9e7f T1.9ea5 T1.9ebb T1.9ec3 T1.9ecd T1.9ed1 T1.9ef9 T1.9efd T1.9f0e T1.9f13 T1.9f20
  T1.9f3b T1.9f4a T1.9f52 T1.9f8d T1.9f9c T1.9fa0 X2a T1.20 K1 T1.2e K33 T1.3012 K1 T1.5341
  S2.5344 K5 X1 K56 X2 K2 T1.20.3099 T1.20.309a K2 T1.3088.308a K5f T1.30b3.30c8 X5 K2b X1
  S2.1100 T1.11aa T1.1102 S2.11ac S3.1103 S6.11b0 T1.111a S3.1106 T1.1121 Sa.1109 S15.1161 T1
  S2.1114 S2.11c7 T1.11cc T1.11ce T1.11d3 T1.11d7 T1.11d9 T1.111c T1.11dd T1.11df S2.111d
  T1.1120 S2.1122 T1.1127 T1.1129 S5.112b T1.1132 T1.1136 T1.1140 T1.1147 T1.114c S2.11f1
  S3.1157 S2.1184 T1.1188 S2.1191 T1.1194 T1.119e T1.11a1 X1 K2 T1.4e00 T1.4e8c T1.4e09 T1.56db
  T1.4e0a T1.4e2d T1.4e0b T1.7532 T1.4e59 T1.4e19 T1.4e01 T1.5929 T1.5730 T1.4eba K46 Xa K10
  T1.28.1100.29 T1.28.1102.29 T1.28.1103.29 T1.28.1105.29 T1.28.1106.29 T1.28.1107.29
  T1.28.1109.29 T1.28.110b.29 T1.28.110c.29 T1.28.110e.29 T1.28.110f.29 T1.28.1110.29
  T1.28.1111.29 T1.28.1112.29 T1.28.ac00.29 T1.28.b098.29 T1.28.b2e4.29 T1.28.b77c.29
  T1.28.b9c8.29 T1.28.bc14.29 T1.28.c0ac.29 T1.28.c544.29 T1.28.c790.29 T1.28.cc28.29
  T1.28.ce74.29 T1.28.d0c0.29 T1.28.d30c.29 T1.28.d558.29 T1.28.c8fc.29 T1.28.c624.c804.29
  T1.28.c624.d6c4.29 X1 T1.28.4e00.29 T1.28.4e8c.29 T1.28.4e09.29 T1.28.56db.29 T1.28.4e94.29
  T1.28.516d.29 T1.28.4e03.29 T1.28.516b.29 T1.28.4e5d.29 T1.28.5341.29 T1.28.6708.29
  T1.28.706b.29 T1.28.6c34.29 T1.28.6728.29 T1.28.91d1.29 T1.28.571f.29 T1.28.65e5.29
  T1.28.682a.29 T1.28.6709.29 T1.28.793e.29 T1.28.540d.29 T1.28.7279.29 T1.28.8ca1.29
  T1.28.795d.29 T1.28.52b4.29 T1.28.4ee3.29 T1.28.547c.29 T1.28.5b66.29 T1.28.76e3.29
  T1.28.4f01.29 T1.28.8cc7.29 T1.28.5354.29 T1.28.796d.29 T1.28.4f11.29 T1.28.81ea.29
  T1.28.81f3.29 T1.554f T1.5e7c T1.6587 T1.7b8f K8 T1.70.74.65 T1.32.31 T1.32.32 T1.32.33
  T1.32.34 T1.32.35 T1.32.36 T1.32.37 T1.32.38 T1.32.39 T1.33.30 T1.33.31 T1.33.32 T1.33.33
  T1.33.34 T1.33.35 T1.1100 S2.1102 S3.1105 T1.1109 S2.110b S5.110e T1.ac00 T1.b098 T1.b2e4
  T1.b77c T1.b9c8 T1.bc14 T1.c0ac T1.c544 T1.c790 T1.cc28 T1.ce74 T1.d0c0 T1.d30c T1.d558
  T1.cc38.ace0 T1.c8fc.c758 T1.c6b0 K1 T1.4e00 T1.4e8c T1.4e09 T1.56db T1.4e94 T1.516d T1.4e03
  T1.516b T1.4e5d T1.5341 T1.6708 T1.706b T1.6c34 T1.6728 T1.91d1 T1.571f T1.65e5 T1.682a
  T1.6709 T1.793e T1.540d T1.7279 T1.8ca1 T1.795d T1.52b4 T1.79d8 T1.7537 T1.5973 T1.9069
  T1.512a T1.5370 T1.6ce8 T1.9805 T1.4f11 T1.5199 T1.6b63 T1.4e0a T1.4e2d T1.4e0b T1.5de6
  T1.53f3 T1.533b T1.5b97 T1.5b66 T1.76e3 T1.4f01 T1.8cc7 T1.5354 T1.591c T1.33.36 T1.33.37
  T1.33.38 T1.33.39 T1.34.30 T1.34.31 T1.34.32 T1.34.33 T1.34.34 T1.34.35 T1.34.36 T1.34.37
  T1.34.38 T1.34.39 T1.35.30 T1.31.6708 T1.32.6708 T1.33.6708 T1.34.6708 T1.35.6708 T1.36.6708
  T1.37.6708 T1.38.6708 T1.39.6708 T1.31.30.6708 T1.31.31.6708 T1.31.32.6708 T1.68.67
  T1.65.72.67 T1.65.76 T1.6c.74.64 T1.30a2 T1.30a4 T1.30a6 T1.30a8 S2.30aa T1.30ad T1.30af
  T1.30b1 T1.30b3 T1.30b5 T1.30b7 T1.30b9 T1.30bb T1.30bd T1.30bf T1.30c1 T1.30c4 T1.30c6
  T1.30c8 S6.30ca T1.30d2 T1.30d5 T1.30d8 T1.30db S5.30de T1.30e4 T1.30e6 S6.30e8 S4.30ef
  T1.4ee4.548c T1.30a2.30d1.30fc.30c8 T1.30a2.30eb.30d5.30a1 T1.30a2.30f3.30da.30a2
  T1.30a2.30fc.30eb T1.30a4.30cb.30f3.30b0 T1.30a4.30f3.30c1 T1.30a6.30a9.30f3
  T1.30a8.30b9.30af.30fc.30c9 T1.30a8.30fc.30ab.30fc T1.30aa.30f3.30b9 T1.30aa.30fc.30e0
  T1.30ab.30a4.30ea T1.30ab.30e9.30c3.30c8 T1.30ab.30ed.30ea.30fc T1.30ac.30ed.30f3
  T1.30ac.30f3.30de T1.30ae.30ac T1.30ae.30cb.30fc T1.30ad.30e5.30ea.30fc T1.30ae.30eb.30c0.30fc
  T1.30ad.30ed T1.30ad.30ed.30b0.30e9.30e0 T1.30ad.30ed.30e1.30fc.30c8.30eb
  T1.30ad.30ed.30ef.30c3.30c8 T1.30b0.30e9.30e0 T1.30b0.30e9.30e0.30c8.30f3
  T1.30af.30eb.30bc.30a4.30ed T1.30af.30ed.30fc.30cd T1.30b1.30fc.30b9 T1.30b3.30eb.30ca
  T1.30b3.30fc.30dd T1.30b5.30a4.30af.30eb T1.30b5.30f3.30c1.30fc.30e0 T1.30b7.30ea.30f3.30b0
  T1.30bb.30f3.30c1 T1.30bb.30f3.30c8 T1.30c0.30fc.30b9 T1.30c7.30b7 T1.30c9.30eb T1.30c8.30f3
  T1.30ca.30ce T1.30ce.30c3.30c8 T1.30cf.30a4.30c4 T1.30d1.30fc.30bb.30f3.30c8 T1.30d1.30fc.30c4
  T1.30d0.30fc.30ec.30eb T1.30d4.30a2.30b9.30c8.30eb T1.30d4.30af.30eb T1.30d4.30b3 T1.30d3.30eb
  T1.30d5.30a1.30e9.30c3.30c9 T1.30d5.30a3.30fc.30c8 T1.30d6.30c3.30b7.30a7.30eb
  T1.30d5.30e9.30f3 T1.30d8.30af.30bf.30fc.30eb T1.30da.30bd T1.30da.30cb.30d2 T1.30d8.30eb.30c4
  T1.30da.30f3.30b9 T1.30da.30fc.30b8 T1.30d9.30fc.30bf T1.30dd.30a4.30f3.30c8 T1.30dc.30eb.30c8
  T1.30db.30f3 T1.30dd.30f3.30c9 T1.30db.30fc.30eb T1.30db.30fc.30f3 T1.30de.30a4.30af.30ed
  T1.30de.30a4.30eb T1.30de.30c3.30cf T1.30de.30eb.30af T1.30de.30f3.30b7.30e7.30f3
  T1.30df.30af.30ed.30f3 T1.30df.30ea T1.30df.30ea.30d0.30fc.30eb T1.30e1.30ac
  T1.30e1.30ac.30c8.30f3 T1.30e1.30fc.30c8.30eb T1.30e4.30fc.30c9 T1.30e4.30fc.30eb
  T1.30e6.30a2.30f3 T1.30ea.30c3.30c8.30eb T1.30ea.30e9 T1.30eb.30d4.30fc T1.30eb.30fc.30d6.30eb
  T1.30ec.30e0 T1.30ec.30f3.30c8.30b2.30f3 T1.30ef.30c3.30c8 T1.30.70b9 T1.31.70b9 T1.32.70b9
  T1.33.70b9 T1.34.70b9 T1.35.70b9 T1.36.70b9 T1.37.70b9 T1.38.70b9 T1.39.70b9 T1.31.30.70b9
  T1.31.31.70b9 T1.31.32.70b9 T1.31.33.70b9 T1.31.34.70b9 T1.31.35.70b9 T1.31.36.70b9
  T1.31.37.70b9 T1.31.38.70b9 T1.31.39.70b9 T1.32.30.70b9 T1.32.31.70b9 T1.32.32.70b9
  T1.32.33.70b9 T1.32.34.70b9 T1.68.70.61 T1.64.61 T1.61.75 T1.62.61.72 T1.6f.76 T1.70.63
  T1.64.6d T1.64.6d.32 T1.64.6d.33 T1.69.75 T1.5e73.6210 T1.662d.548c T1.5927.6b63 T1.660e.6cbb
  T1.682a.5f0f.4f1a.793e T1.70.61 T1.6e.61 T1.3bc.61 T1.6d.61 T1.6b.61 T1.6b.62 T1.6d.62
  T1.67.62 T1.63.61.6c T1.6b.63.61.6c T1.70.66 T1.6e.66 T1.3bc.66 T1.3bc.67 T1.6d.67 T1.6b.67
  T1.68.7a T1.6b.68.7a T1.6d.68.7a T1.67.68.7a T1.74.68.7a T1.3bc.6c T1.6d.6c T1.64.6c T1.6b.6c
  T1.66.6d T1.6e.6d T1.3bc.6d T1.6d.6d T1.63.6d T1.6b.6d T1.6d.6d.32 T1.63.6d.32 T1.6d.32
  T1.6b.6d.32 T1.6d.6d.33 T1.63.6d.33 T1.6d.33 T1.6b.6d.33 T1.6d.2215.73 T1.6d.2215.73.32
  T1.70.61 T1.6b.70.61 T1.6d.70.61 T1.67.70.61 T1.72.61.64 T1.72.61.64.2215.73
  T1.72.61.64.2215.73.32 T1.70.73 T1.6e.73 T1.3bc.73 T1.6d.73 T1.70.76 T1.6e.76 T1.3bc.76
  T1.6d.76 T1.6b.76 T1.6d.76 T1.70.77 T1.6e.77 T1.3bc.77 T1.6d.77 T1.6b.77 T1.6d.77 T1.6b.3c9
  T1.6d.3c9 X1 T1.62.71 T1.63.63 T1.63.64 T1.63.2215.6b.67 X1 T1.64.62 T1.67.79 T1.68.61
  T1.68.70 T1.69.6e T1.6b.6b T1.6b.6d T1.6b.74 T1.6c.6d T1.6c.6e T1.6c.6f.67 T1.6c.78 T1.6d.62
  T1.6d.69.6c T1.6d.6f.6c T1.70.68 X1 T1.70.70.6d T1.70.72 T1.73.72 T1.73.76 T1.77.62
  T1.76.2215.6d T1.61.2215.6d T1.31.65e5 T1.32.65e5 T1.33.65e5 T1.34.65e5 T1.35.65e5 T1.36.65e5
  T1.37.65e5 T1.38.65e5 T1.39.65e5 T1.31.30.65e5 T1.31.31.65e5 T1.31.32.65e5 T1.31.33.65e5
  T1.31.34.65e5 T1.31.35.65e5 T1.31.36.65e5 T1.31.37.65e5 T1.31.38.65e5 T1.31.39.65e5
  T1.32.30.65e5 T1.32.31.65e5 T1.32.32.65e5 T1.32.33.65e5 T1.32.34.65e5 T1.32.35.65e5
  T1.32.36.65e5 T1.32.37.65e5 T1.32.38.65e5 T1.32.39.65e5 T1.33.30.65e5 T1.33.31.65e5
  T1.67.61.6c K708d X3 K37 X9 K15c X14 P2d K13 P1b K1 T1.44a T1.44c K5a X8 K22 Pd K3 P3d K1
  T1.a76f K8 P3 K1 T1.1d79 P9 K4 T1.a78c K1 T1.265 K2 P3 K3 P13 K1 T1.266 T1.25c T1.261 T1.26c
  T1.26a K1 T1.29e T1.287 T1.29d T1.ab53 Pf K1 T1.a794 T1.282 T1.1d8e P3 K1 T1.264 Pf K1 T1.19b
  X14 T1.73 T1.63 T1.66 T1.71 T1.a7f6 K2 T1.127 T1.153 K33 X3 Ka X6 K38 X8 K46 X8 Kc X6 K74 Xb
  K1e X3 K4e X1 Kb X4 K21 X1 K37 X9 Ke X2 Ka X2 K67 X18 K1c Xa K6 X2 K6 X2 K6 X9 K7 X1 K7 X1 K2c
  T1.a727 T1.ab37 T1.26b T1.ab52 K9 T1.28d K2 X4 S50.13a0 K2e X2 Ka X6 K2ba4 Xc K17 X4 K31 X2104
  T1.8c48 T1.66f4 T1.8eca T1.8cc8 T1.6ed1 T1.4e32 T1.53e5 T2.9f9c T1.5951 T1.91d1 T1.5587
  T1.5948 T1.61f6 T1.7669 T1.7f85 T1.863f T1.87ba T1.88f8 T1.908f T1.6a02 T1.6d1b T1.70d9
  T1.73de T1.843d T1.916a T1.99f1 T1.4e82 T1.5375 T1.6b04 T1.721b T1.862d T1.9e1e T1.5d50
  T1.6feb T1.85cd T1.8964 T1.62c9 T1.81d8 T1.881f T1.5eca T1.6717 T1.6d6a T1.72fc T1.90ce
  T1.4f86 T1.51b7 T1.52de T1.64c4 T1.6ad3 T1.7210 T1.76e7 T1.8001 T1.8606 T1.865c T1.8def
  T1.9732 T1.9b6f T1.9dfa T1.788c T1.797f T1.7da0 T1.83c9 T1.9304 T1.9e7f T1.8ad6 T1.58df
  T1.5f04 T1.7c60 T1.807e T1.7262 T1.78ca T1.8cc2 T1.96f7 T1.58d8 T1.5c62 T1.6a13 T1.6dda
  T1.6f0f T1.7d2f T1.7e37 T1.964b T1.52d2 T1.808b T1.51dc T1.51cc T1.7a1c T1.7dbe T1.83f1
  T1.9675 T1.8b80 T1.62cf T1.6a02 T1.8afe T1.4e39 T1.5be7 T1.6012 T1.7387 T1.7570 T1.5317
  T1.78fb T1.4fbf T1.5fa9 T1.4e0d T1.6ccc T1.6578 T1.7d22 T1.53c3 T1.585e T1.7701 T1.8449
  T1.8aaa T1.6bba T1.8fb0 T1.6c88 T1.62fe T1.82e5 T1.63a0 T1.7565 T1.4eae T1.5169 T1.51c9
  T1.6881 T1.7ce7 T1.826f T1.8ad2 T1.91cf T1.52f5 T1.5442 T1.5973 T1.5eec T1.65c5 T1.6ffe
  T1.792a T1.95ad T1.9a6a T1.9e97 T1.9ece T1.529b T1.66c6 T1.6b77 T1.8f62 T1.5e74 T1.6190
  T1.6200 T1.649a T1.6f23 T1.7149 T1.7489 T1.79ca T1.7df4 T1.806f T1.8f26 T1.84ee T1.9023
  T1.934a T1.5217 T1.52a3 T1.54bd T1.70c8 T1.88c2 T1.8aaa T1.5ec9 T1.5ff5 T1.637b T1.6bae
  T1.7c3e T1.7375 T1.4ee4 T1.56f9 T1.5be7 T1.5dba T1.601c T1.73b2 T1.7469 T1.7f9a T1.8046
  T1.9234 T1.96f6 T1.9748 T1.9818 T1.4f8b T1.79ae T1.91b4 T1.96b8 T1.60e1 T1.4e86 T1.50da
  T1.5bee T1.5c3f T1.6599 T1.6a02 T1.71ce T1.7642 T1.84fc T1.907c T1.9f8d T1.6688 T1.962e
  T1.5289 T1.677b T1.67f3 T1.6d41 T1.6e9c T1.7409 T1.7559 T1.786b T1.7d10 T1.985e T1.516d
  T1.622e T1.9678 T1.502b T1.5d19 T1.6dea T1.8f2a T1.5f8b T1.6144 T1.6817 T1.7387 T1.9686
  T1.5229 T1.540f T1.5c65 T1.6613 T1.674e T1.68a8 T1.6ce5 T1.7406 T1.75e2 T1.7f79 T1.88cf
  T1.88e1 T1.91cc T1.96e2 T1.533f T1.6eba T1.541d T1.71d0 T1.7498 T1.85fa T1.96a3 T1.9c57
  T1.9e9f T1.6797 T1.6dcb T1.81e8 T1.7acb T1.7b20 T1.7c92 T1.72c0 T1.7099 T1.8b58 T1.4ec0
  T1.8336 T1.523a T1.5207 T1.5ea6 T1.62d3 T1.7cd6 T1.5b85 T1.6d1e T1.66b4 T1.8f3b T1.884c
  T1.964d T1.898b T1.5ed3 T1.5140 T1.55c0 K2 T1.585a K1 T1.6674 K2 T1.51de T1.732a T1.76ca
  T1.793c T1.795e T1.7965 T1.798f T1.9756 T1.7cbe T1.7fbd K1 T1.8612 K1 T1.8af8 K2 T1.9038
  T1.90fd K3 T1.98ef T1.98fc T1.9928 T1.9db4 T1.90de T1.96b7 T1.4fae T1.50e7 T1.514d T1.52c9
  T1.52e4 T1.5351 T1.559d T1.5606 T1.5668 T1.5840 T1.58a8 T1.5c64 T1.5c6e T1.6094 T1.6168
  T1.618e T1.61f2 T1.654f T1.65e2 T1.6691 T1.6885 T1.6d77 T1.6e1a T1.6f22 T1.716e T1.722b
  T1.7422 T1.7891 T1.793e T1.7949 T1.7948 T1.7950 T1.7956 T1.795d S2.798d T1.7a40 T1.7a81
  T1.7bc0 T1.7df4 T1.7e09 T1.7e41 T1.7f72 T1.8005 T1.81ed T2.8279 T1.8457 T1.8910 T1.8996
  T1.8b01 T1.8b39 T1.8cd3 T1.8d08 T1.8fb6 T1.9038 T1.96e3 T1.97ff T1.983b T1.6075 T1.242ee
  T1.8218 X2 T1.4e26 T1.51b5 T1.5168 T1.4f80 T1.5145 T1.5180 T1.52c7 T1.52fa T1.559d T1.5555
  T1.5599 T1.55e2 T1.585a T1.58b3 T1.5944 T1.5954 T1.5a62 T1.5b28 T1.5ed2 T1.5ed9 T1.5f69
  T1.5fad T1.60d8 T1.614e T1.6108 T1.618e T1.6160 T1.61f2 T1.6234 T1.63c4 T1.641c T1.6452
  T1.6556 T1.6674 T1.6717 T1.671b T1.6756 T1.6b79 T1.6bba T1.6d41 T1.6edb T1.6ecb T1.6f22
  T1.701e T1.716e T1.77a7 T1.7235 T1.72af T1.732a T1.7471 T1.7506 T1.753b T1.761d T1.761f
  T1.76ca T1.76db T1.76f4 T1.774a T1.7740 T1.78cc T1.7ab1 T1.7bc0 T1.7c7b T1.7d5b T1.7df4
  T1.7f3e T1.8005 T1.8352 T1.83ef T1.8779 T1.8941 T1.8986 T1.8996 T1.8abf T1.8af8 T1.8acb
  T1.8b01 T1.8afe T1.8aed T1.8b39 T1.8b8a T1.8d08 T1.8f38 T1.9072 T1.9199 T1.9276 T1.967c
  T1.96e3 T1.9756 T1.97db T1.97ff T1.980b T1.983b T1.9b12 T1.9f9c T1.2284a T1.22844 T1.233d5
  T1.3b9d T1.4018 T1.4039 T1.25249 T1.25cd0 T1.27ed3 T1.9f43 T1.9f8e X26 T1.66.66 T1.66.69
  T1.66.6c T1.66.66.69 T1.66.66.6c T2.73.74 Xc T1.574.576 T1.574.565 T1.574.56b T1.57e.576
  T1.574.56d X5 T1.5d9.5b4 K1 T1.5f2.5b7 T1.5e2 T1.5d0 S2.5d3 S3.5db T1.5e8 T1.5ea T1.2b
  T1.5e9.5c1 T1.5e9.5c2 T1.5e9.5bc.5c1 T1.5e9.5bc.5c2 T1.5d0.5b7 T1.5d0.5b8 T1.5d0.5bc
  T1.5d1.5bc T1.5d2.5bc T1.5d3.5bc T1.5d4.5bc T1.5d5.5bc T1.5d6.5bc X1 T1.5d8.5bc T1.5d9.5bc
  T1.5da.5bc T1.5db.5bc T1.5dc.5bc X1 T1.5de.5bc X1 T1.5e0.5bc T1.5e1.5bc X1 T1.5e3.5bc
  T1.5e4.5bc X1 T1.5e6.5bc T1.5e7.5bc T1.5e8.5bc T1.5e9.5bc T1.5ea.5bc T1.5d5.5b9 T1.5d1.5bf
  T1.5db.5bf T1.5e4.5bf T1.5d0.5dc T2.671 T4.67b T4.67e T4.680 T4.67a T4.67f T4.679 T4.6a4
  T4.6a6 T4.684 T4.683 T4.686 T4.687 T2.68d T2.68c T2.68e T2.688 T2.698 T2.691 T4.6a9 T4.6af
  T4.6b3 T4.6b1 T2.6ba T4.6bb T2.6c0 T4.6c1 T4.6be T2.6d2 T2.6d3 K21 T4.6ad T2.6c7 T2.6c6 T2.6c8
  T1.6c7.674 T2.6cb T2.6c5 T2.6c9 T4.6d0 T2.649 T2.626.627 T2.626.6d5 T2.626.648 T2.626.6c7
  T2.626.6c6 T2.626.6c8 T3.626.6d0 T3.626.649 T4.6cc T1.626.62c T1.626.62d T1.626.645 T1.626.649
  T1.626.64a T1.628.62c T1.628.62d T1.628.62e T1.628.645 T1.628.649 T1.628.64a T1.62a.62c
  T1.62a.62d T1.62a.62e T1.62a.645 T1.62a.649 T1.62a.64a T1.62b.62c T1.62b.645 T1.62b.649
  T1.62b.64a T1.62c.62d T1.62c.645 T1.62d.62c T1.62d.645 T1.62e.62c T1.62e.62d T1.62e.645
  T1.633.62c T1.633.62d T1.633.62e T1.633.645 T1.635.62d T1.635.645 T1.636.62c T1.636.62d
  T1.636.62e T1.636.645 T1.637.62d T1.637.645 T1.638.645 T1.639.62c T1.639.645 T1.63a.62c
  T1.63a.645 T1.641.62c T1.641.62d T1.641.62e T1.641.645 T1.641.649 T1.641.64a T1.642.62d
  T1.642.645 T1.642.649 T1.642.64a T1.643.627 T1.643.62c T1.643.62d T1.643.62e T1.643.644
  T1.643.645 T1.643.649 T1.643.64a T1.644.62c T1.644.62d T1.644.62e T1.644.645 T1.644.649
  T1.644.64a T1.645.62c T1.645.62d T1.645.62e T1.645.645 T1.645.649 T1.645.64a T1.646.62c
  T1.646.62d T1.646.62e T1.646.645 T1.646.649 T1.646.64a T1.647.62c T1.647.645 T1.647.649
  T1.647.64a T1.64a.62c T1.64a.62d T1.64a.62e T1.64a.645 T1.64a.649 T1.64a.64a T1.630.670
  T1.631.670 T1.649.670 T1.20.64c.651 T1.20.64d.651 T1.20.64e.651 T1.20.64f.651 T1.20.650.651
  T1.20.651.670 T1.626.631 T1.626.632 T1.626.645 T1.626.646 T1.626.649 T1.626.64a T1.628.631
  T1.628.632 T1.628.645 T1.628.646 T1.628.649 T1.628.64a T1.62a.631 T1.62a.632 T1.62a.645
  T1.62a.646 T1.62a.649 T1.62a.64a T1.62b.631 T1.62b.632 T1.62b.645 T1.62b.646 T1.62b.649
  T1.62b.64a T1.641.649 T1.641.64a T1.642.649 T1.642.64a T1.643.627 T1.643.644 T1.643.645
  T1.643.649 T1.643.64a T1.644.645 T1.644.649 T1.644.64a T1.645.627 T1.645.645 T1.646.631
  T1.646.632 T1.646.645 T1.646.646 T1.646.649 T1.646.64a T1.649.670 T1.64a.631 T1.64a.632
  T1.64a.645 T1.64a.646 T1.64a.649 T1.64a.64a T1.626.62c T1.626.62d T1.626.62e T1.626.645
  T1.626.647 T1.628.62c T1.628.62d T1.628.62e T1.628.645 T1.628.647 T1.62a.62c T1.62a.62d
  T1.62a.62e T1.62a.645 T1.62a.647 T1.62b.645 T1.62c.62d T1.62c.645 T1.62d.62c T1.62d.645
  T1.62e.62c T1.62e.645 T1.633.62c T1.633.62d T1.633.62e T1.633.645 T1.635.62d T1.635.62e
  T1.635.645 T1.636.62c T1.636.62d T1.636.62e T1.636.645 T1.637.62d T1.638.645 T1.639.62c
  T1.639.645 T1.63a.62c T1.63a.645 T1.641.62c T1.641.62d T1.641.62e T1.641.645 T1.642.62d
  T1.642.645 T1.643.62c T1.643.62d T1.643.62e T1.643.644 T1.643.645 T1.644.62c T1.644.62d
  T1.644.62e T1.644.645 T1.644.647 T1.645.62c T1.645.62d T1.645.62e T1.645.645 T1.646.62c
  T1.646.62d T1.646.62e T1.646.645 T1.646.647 T1.647.62c T1.647.645 T1.647.670 T1.64a.62c
  T1.64a.62d T1.64a.62e T1.64a.645 T1.64a.647 T1.626.645 T1.626.647 T1.628.645 T1.628.647
  T1.62a.645 T1.62a.647 T1.62b.645 T1.62b.647 T1.633.645 T1.633.647 T1.634.645 T1.634.647
  T1.643.644 T1.643.645 T1.644.645 T1.646.645 T1.646.647 T1.64a.645 T1.64a.647 T1.640.64e.651
  T1.640.64f.651 T1.640.650.651 T1.637.649 T1.637.64a T1.639.649 T1.639.64a T1.63a.649
  T1.63a.64a T1.633.649 T1.633.64a T1.634.649 T1.634.64a T1.62d.649 T1.62d.64a T1.62c.649
  T1.62c.64a T1.62e.649 T1.62e.64a T1.635.649 T1.635.64a T1.636.649 T1.636.64a T1.634.62c
  T1.634.62d T1.634.62e T1.634.645 T1.634.631 T1.633.631 T1.635.631 T1.636.631 T1.637.649
  T1.637.64a T1.639.649 T1.639.64a T1.63a.649 T1.63a.64a T1.633.649 T1.633.64a T1.634.649
  T1.634.64a T1.62d.649 T1.62d.64a T1.62c.649 T1.62c.64a T1.62e.649 T1.62e.64a T1.635.649
  T1.635.64a T1.636.649 T1.636.64a T1.634.62c T1.634.62d T1.634.62e T1.634.645 T1.634.631
  T1.633.631 T1.635.631 T1.636.631 T1.634.62c T1.634.62d T1.634.62e T1.634.645 T1.633.647
  T1.634.647 T1.637.645 T1.633.62c T1.633.62d T1.633.62e T1.634.62c T1.634.62d T1.634.62e
  T1.637.645 T1.638.645 T2.627.64b K12 T1.62a.62c.645 T2.62a.62d.62c T1.62a.62d.645
  T1.62a.62e.645 T1.62a.645.62c T1.62a.645.62d T1.62a.645.62e T2.62c.645.62d T1.62d.645.64a
  T1.62d.645.649 T1.633.62d.62c T1.633.62c.62d T1.633.62c.649 T2.633.645.62d T1.633.645.62c
  T2.633.645.645 T2.635.62d.62d T1.635.645.645 T2.634.62d.645 T1.634.62c.64a T2.634.645.62e
  T2.634.645.645 T1.636.62d.649 T2.636.62e.645 T2.637.645.62d T1.637.645.645 T1.637.645.64a
  T1.639.62c.645 T2.639.645.645 T1.639.645.649 T1.63a.645.645 T1.63a.645.64a T1.63a.645.649
  T2.641.62e.645 T1.642.645.62d T1.642.645.645 T1.644.62d.645 T1.644.62d.64a T1.644.62d.649
  T2.644.62c.62c T2.644.62e.645 T2.644.645.62d T1.645.62d.62c T1.645.62d.645 T1.645.62d.64a
  T1.645.62c.62d T1.645.62c.645 T1.645.62e.62c T1.645.62e.645 K2 T1.645.62c.62e T1.647.645.62c
  T1.647.645.645 T1.646.62d.645 T1.646.62d.649 T2.646.62c.645 T1.646.62c.649 T1.646.645.64a
  T1.646.645.649 T2.64a.645.645 T1.628.62e.64a T1.62a.62c.64a T1.62a.62c.649 T1.62a.62e.64a
  T1.62a.62e.649 T1.62a.645.64a T1.62a.645.649 T1.62c.645.64a T1.62c.62d.649 T1.62c.645.649
  T1.633.62e.649 T1.635.62d.64a T1.634.62d.64a T1.636.62d.64a T1.644.62c.64a T1.644.645.64a
  T1.64a.62d.64a T1.64a.62c.64a T1.64a.645.64a T1.645.645.64a T1.642.645.64a T1.646.62d.64a
  T1.642.645.62d T1.644.62d.645 T1.639.645.64a T1.643.645.64a T1.646.62c.62d T1.645.62e.64a
  T1.644.62c.645 T1.643.645.645 T1.644.62c.645 T1.646.62c.62d T1.62c.62d.64a T1.62d.62c.64a
  T1.645.62c.64a T1.641.645.64a T1.628.62d.64a T1.643.645.645 T1.639.62c.645 T1.635.645.645
  T1.633.62e.64a T1.646.62c.64a K8 X20 T1.635.644.6d2 T1.642.644.6d2 T1.627.644.644.647
  T1.627.643.628.631 T1.645.62d.645.62f T1.635.644.639.645 T1.631.633.648.644 T1.639.644.64a.647
  T1.648.633.644.645 T1.635.644.649
  T1.635.644.649.20.627.644.644.647.20.639.644.64a.647.20.648.633.644.645
  T1.62c.644.20.62c.644.627.644.647 T1.631.6cc.627.644 K3 T10 T1.2c T1.3001 X1 S2.3a T1.21 T1.3f
  S2.3016 X7 K10 X1 T1.2014 T1.2013 T2.5f S2.28 T1.7b T1.7d S2.3014 S2.3010 S2.300a S2.3008
  S4.300c K2 T1.5b T1.5d T4.20.305 T3.5f T1.2c T1.3001 X2 T1.3b T1.3a T1.3f T1.21 T1.2014 S2.28
  T1.7b T1.7d S2.3014 T1.23 T1.26 S2.2a T1.2d T1.3c T1.3e T1.3d X1 T1.5c S2.24 T1.40 X4
  T1.20.64b T1.640.64b T1.20.64c K1 T1.20.64d X1 T1.20.64e T1.640.64e T1.20.64f T1.640.64f
  T1.20.650 T1.640.650 T1.20.651 T1.640.651 T1.20.652 T1.640.652 S2.621 S2.622 S2.623 S2.624
  S2.625 T3.626 T2.627 T4.628 T2.629 T4.62a T4.62b T4.62c T4.62d T4.62e T2.62f T2.630 T2.631
  T2.632 T4.633 T4.634 T4.635 T4.636 T4.637 T4.638 T4.639 T4.63a T4.641 T4.642 T4.643 T4.644
  T4.645 T4.646 T4.647 T2.648 T2.649 T4.64a T2.644.622 T2.644.623 T2.644.625 T2.644.627 X2 T1 X1
  S20.21 S1a.61 S24.5b S2.2985 T1.2e S2.300c T1.3001 T1.30fb T1.30f2 T1.30a1 T1.30a3 T1.30a5
  T1.30a7 T1.30a9 T1.30e3 T1.30e5 T1.30e7 T1.30c3 T1.30fc T1.30a2 T1.30a4 T1.30a6 T1.30a8
  S2.30aa T1.30ad T1.30af T1.30b1 T1.30b3 T1.30b5 T1.30b7 T1.30b9 T1.30bb T1.30bd T1.30bf
  T1.30c1 T1.30c4 T1.30c6 T1.30c8 S6.30ca T1.30d2 T1.30d5 T1.30d8 T1.30db S5.30de T1.30e4
  T1.30e6 S6.30e8 T1.30ef T1.30f3 S2.3099 T1 S2.1100 T1.11aa T1.1102 S2.11ac S3.1103 S6.11b0
  T1.111a S3.1106 T1.1121 Sa.1109 X3 S6.1161 X2 S6.1167 X2 S6.116d X2 S3.1173 X3 S2.a2 T1.ac
  T1.20.304 T1.a6 T1.a5 T1.20a9 X1 T1.2502 S4.2190 T1.25a0 T1.25cb X11 Kc X1 K1a X1 K13 X1 K2 X1
  Kf X2 Ke X22 K7b X5 K3 X4 K2d X3 K58 X1 Kd X3 K1 X2f K2e X82 K1d X3 K31 Xf K1c X4 K24 X9 K1e
  X5 K2b X5 K1e X1 K25 X4 Ke X2a S28.10428 K76 X2 Ka X6 S24.104d8 X4 K24 X4 K28 X8 K34 Xb K1
  Sb.10597 X1 Sf.105a3 X1 S7.105b3 X1 S2.105bb X1 Kb X1 Kf X1 K7 X1 K2 X3 K34 Xc K137 X9 K16 Xa
  K8 X18 K1 S2.2d0 T1.e6 T1.299 T1.253 X1 T1.2a3 T1.ab66 T1.2a5 T1.2a4 S2.256 T1.1d91 T1.258
  T1.25e T1.2a9 T1.264 T1.262 T1.260 T1.29b T1.127 T1.29c T1.267 T1.284 S2.2aa T1.26c T1.1df04
  T1.a78e T1.26e T1.1df05 T1.28e T1.1df06 T1.f8 S2.276 T1.71 T1.27a T1.1df08 S2.27d T1.280
  T1.2a8 T1.2a6 T1.ab67 T1.2a7 T1.288 T1.2c71 X1 T1.28f S2.2a1 T1.298 S3.1c0 T1.1df0a T1.1df1e
  X45 K6 X2 K1 X1 K2c X1 K2 X3 K1 X2 K17 X1 K48 X8 K9 X30 K13 X1 K2 X5 K21 X3 K1b X5 K1b X26 K38
  X4 K14 X2 K32 X1 K2 X5 K8 X1 K3 X1 K1d X2 K3 X4 Ka X7 K9 X7 K40 X20 K27 X4 Kc X9 K36 X3 K1d X2
  K1b X5 K1a X7 K4 Xc K7 X50 K49 X37 S33.10cc0 Xd K33 X7 K2e X8 Ka X6 K10 S16.10d70 X3 K1d X8 K2
  Xd0 K1f X1 K2a X1 K3 X2 K2 X10 K6 X8 K9 X21 K2e X8 K2a X16 K1a X26 K1c X14 K17 X9 K4e X4 K24
  X9 K3e X1 K5 Xd K19 X7 Ka X6 K35 X1 K12 X8 K27 X9 K60 X1 K14 Xb K12 X1 K2f X3e K7 X1 K1 X1 K4
  X1 Kf X1 Kb X6 K3b X5 Ka X6 K4 X1 K8 X2 K2 X2 K16 X1 K7 X1 K2 X1 K5 X1 Ka X2 K2 X2 K3 X2 K1 X6
  K1 X5 K7 X2 K7 X3 K5 Xb Ka X1 K1 X2 K1 X1 K26 X1 Ka X1 K1 X2 K1 X1 K4 X1 Ka X1 K2 X8 K2 X1d
  K5c X1 K5 X1e K48 X8 Ka Xa6 K36 X2 K26 X22 K45 Xb Ka X6 Kd X13 K3a X6 Ka X6 K14 X1c K1b X2 Kf
  X4 K17 Xb9 K3c X64 S20.118c0 K33 Xc K8 X2 K1 X2 K8 X1 K2 X1 K1e X1 K2 X2 Kc X9 Ka X46 K8 X2
  K2e X2 Kb X1b K48 X8 K53 Xd K49 X7 Ka X56 K8 X58 K22 Xe Ka X6 K9 X1 K2d X1 Ke Xa K1d X3 K20 X2
  K16 X1 Ke X49 K7 X1 K2 X1 K2c X3 K1 X1 K2 X1 K9 X8 Ka X6 K6 X1 K2 X1 K25 X1 K2 X1 K6 X7 Ka X6
  K2c X4 Ka Xf6 K19 X7 K11 X1 K29 X3 K1d X55 K1 Xf K32 Xd K39b X66 K6f X1 K5 Xb Kc4 Xa4c K63 Xd
  K430 X10 K16 Xa Kf9b X5 K247 X1ab9 K3a X6c6 K239 X7 K1f X1 Ka X4 K51 X1 Ka X6 K1e X2 K6 Xa K46
  Xa Ka X1 K7 X1 K15 X5 K13 X1b0 K3a Xc6 S20.16e60 K3b X5 S19.16ebb X2 K19 X2c K4b X4 K39 X7 K11
  X40 K5 Xb K7 X9 K1cd6 X29 K20 X61 K73 X21fd K4 X1 K7 X1 K2 X1 K123 Xf K1 X1d K3 X2 K1 Xe K4 X8
  K18c X904 K6b X5 Kd X3 K9 X7 Ka X2 K4 T4 Xf5c Kd6 S1a.61 Sa.30 K3 X3 K1b4 X6 K17 Xf K11 Xf K2e
  X2 K17 X9 K74 X3c Kf6 Xa K27 X2 K35 T1.1d157.1d165 T1.1d158.1d165 T1.1d158.1d165.1d16e
  T1.1d158.1d165.1d16f T1.1d158.1d165.1d170 T1.1d158.1d165.1d171 T1.1d158.1d165.1d172 Ke T8 K40
  T1.1d1b9.1d165 T1.1d1ba.1d165 T1.1d1b9.1d165.1d16e T1.1d1ba.1d165.1d16e T1.1d1b9.1d165.1d16f
  T1.1d1ba.1d165.1d16f K2a X15 K46 X7a K14 Xc K14 Xc K57 X9 K19 X87 S1a.61 S1a.61 S1a.61 S7.61
  X1 S12.69 S1a.61 S1a.61 T1.61 X1 S2.63 X2 T1.67 X2 S2.6a X2 S4.6e X1 S8.73 S4.61 X1 T1.66 X1
  S7.68 X1 Sb.70 S1a.61 S1a.61 S2.61 X1 S4.64 X2 S8.6a X1 S7.73 X1 S1a.61 S2.61 X1 S4.64 X1
  S5.69 X1 T1.6f X3 S7.73 X1 S1a.61 S1a.61 S1a.61 S1a.61 S1a.61 S1a.61 S1a.61 S1a.61 S1a.61
  S1a.61 S1a.61 S1a.61 S1a.61 T1.131 T1.237 X2 S11.3b1 T1.3b8 S7.3c3 T1.2207 S11.3b1 T2.3c3
  S6.3c4 T1.2202 T1.3b5 T1.3b8 T1.3ba T1.3c6 T1.3c1 T1.3c0 S11.3b1 T1.3b8 S7.3c3 T1.2207 S11.3b1
  T2.3c3 S6.3c4 T1.2202 T1.3b5 T1.3b8 T1.3ba T1.3c6 T1.3c1 T1.3c0 S11.3b1 T1.3b8 S7.3c3 T1.2207
  S11.3b1 T2.3c3 S6.3c4 T1.2202 T1.3b5 T1.3b8 T1.3ba T1.3c6 T1.3c1 T1.3c0 S11.3b1 T1.3b8 S7.3c3
  T1.2207 S11.3b1 T2.3c3 S6.3c4 T1.2202 T1.3b5 T1.3b8 T1.3ba T1.3c6 T1.3c1 T1.3c0 S11.3b1 T1.3b8
  S7.3c3 T1.2207 S11.3b1 T2.3c3 S6.3c4 T1.2202 T1.3b5 T1.3b8 T1.3ba T1.3c6 T1.3c1 T1.3c0 T2.3dd
  X2 Sa.30 Sa.30 Sa.30 Sa.30 Sa.30 K28c Xf K5 X1 Kf X450 K1f X6 K6 Xd5 K7 X1 K11 X2 K7 X1 K2 X1
  K5 X5 S9.430 S3.43a Sb.43e T1.44b S2.44d T1.a689 T1.4d9 T1.456 T1.458 T1.4e9 T1.4af T1.4cf
  S9.430 S2.43a S2.43e T1.441 S6.443 S2.44a T1.491 T1.456 T1.455 T1.45f T1.4ab T1.a651 T1.4b1
  X21 K1 X70 K2d X3 Ke X2 Ka X4 K2 X140 K1f X11 K3a X5 K1 X1d0 K2a Xd6 K2b X4 K1 Xc0 K1f X1 K16
  X8 K2 Xe0 K7 X1 K4 X1 K2 X1 Kf X1 Kc5 X2 K10 X29 S22.1e922 K2a X4 Ka X4 K2 X311 K44 X4c K3d
  Xc2 S2.627 T1.62c T1.62f X1 T1.648 T1.632 T1.62d T1.637 T1.64a S4.643 T1.633 T1.639 T1.641
  T1.635 T1.642 T1.631 T1.634 S2.62a T1.62e T1.630 T1.636 T1.638 T1.63a T1.66e T1.6ba T1.6a1
  T1.66f X1 T1.628 T1.62c X1 T1.647 X2 T1.62d X1 T1.64a S4.643 T1.633 T1.639 T1.641 T1.635
  T1.642 X1 T1.634 S2.62a T1.62e X1 T1.636 X1 T1.63a X6 T1.62c X4 T1.62d X1 T1.64a X1 T1.644 X1
  T1.646 T1.633 T1.639 X1 T1.635 T1.642 X1 T1.634 X2 T1.62e X1 T1.636 X1 T1.63a X1 T1.6ba X1
  T1.66f X1 T1.628 T1.62c X1 T1.647 X2 T1.62d T1.637 T1.64a T1.643 X1 S2.645 T1.633 T1.639
  T1.641 T1.635 T1.642 X1 T1.634 S2.62a T1.62e X1 T1.636 T1.638 T1.63a T1.66e X1 T1.6a1 X1
  S2.627 T1.62c T1.62f S2.647 T1.632 T1.62d T1.637 T1.64a X1 S3.644 T1.633 T1.639 T1.641 T1.635
  T1.642 T1.631 T1.634 S2.62a T1.62e T1.630 T1.636 T1.638 T1.63a X5 T1.628 T1.62c T1.62f X1
  T1.648 T1.632 T1.62d T1.637 T1.64a X1 S3.644 T1.633 T1.639 T1.641 T1.635 T1.642 T1.631 T1.634
  S2.62a T1.62e T1.630 T1.636 T1.638 T1.63a X34 K2 X10e K2c X4 K64 Xc Kf X2 Kf X1 Kf X1 K25 Xb
  T1.30.2c T1.31.2c T1.32.2c T1.33.2c T1.34.2c T1.35.2c T1.36.2c T1.37.2c T1.38.2c T1.39.2c K5
  T1.28.61.29 T1.28.62.29 T1.28.63.29 T1.28.64.29 T1.28.65.29 T1.28.66.29 T1.28.67.29
  T1.28.68.29 T1.28.69.29 T1.28.6a.29 T1.28.6b.29 T1.28.6c.29 T1.28.6d.29 T1.28.6e.29
  T1.28.6f.29 T1.28.70.29 T1.28.71.29 T1.28.72.29 T1.28.73.29 T1.28.74.29 T1.28.75.29
  T1.28.76.29 T1.28.77.29 T1.28.78.29 T1.28.79.29 T1.28.7a.29 T1.3014.73.3015 T1.63 T1.72
  T1.63.64 T1.77.7a K1 S1a.61 T1.68.76 T1.6d.76 T1.73.64 T1.73.73 T1.70.70.76 T1.77.63 K1a
  T1.6d.63 T1.6d.64 T1.6d.72 K23 T1.64.6a K1d X38 K1a T1.307b.304b T1.30b3.30b3 T1.30b5 Xd
  T1.624b T1.5b57 T1.53cc T1.30c7 T1.4e8c T1.591a T1.89e3 T1.5929 T1.4ea4 T1.6620 T1.7121
  T1.6599 T1.524d T1.5f8c T1.518d T1.65b0 T1.521d T1.7d42 T1.751f T1.8ca9 T1.58f0 T1.5439
  T1.6f14 T1.6295 T1.6355 T1.4e00 T1.4e09 T1.904a T1.5de6 T1.4e2d T1.53f3 T1.6307 T1.8d70
  T1.6253 T1.7981 T1.7a7a T1.5408 T1.6e80 T1.6709 T1.6708 T1.7533 T1.5272 T1.55b6 T1.914d X4
  T1.3014.672c.3015 T1.3014.4e09.3015 T1.3014.4e8c.3015 T1.3014.5b89.3015 T1.3014.70b9.3015
  T1.3014.6253.3015 T1.3014.76d7.3015 T1.3014.52dd.3015 T1.3014.6557.3015 X7 T1.5f97 T1.53ef Xe
  K6 X9a K3d9 X3 K11 X3 Kd X3 Kda X6 Kc X4 K1 Xf Kc X4 K38 X8 Ka X6 K28 X8 K1e X2 Kc X4 K2 Xe K9
  X27 K158 X8 Ke X2 Kd X3 Kb X3 K39 X1 K1 X4 K10 X2 Kc X4 Ka X7 K93 X1 K5c Sa.30 K1 X405 Ka6e0
  X20 K111e X2 K168e X2 K1d31 Xf K26e X9a2 T1.4e3d T1.4e38 T1.4e41 T1.20122 T1.4f60 T1.4fae
  T1.4fbb T1.5002 T1.507a T1.5099 T1.50e7 T1.50cf T1.349e T1.2063a T1.514d T1.5154 T1.5164
  T1.5177 T1.2051c T1.34b9 T1.5167 T1.518d T1.2054b T1.5197 T1.51a4 T1.4ecc T1.51ac T1.51b5
  T1.291df T1.51f5 T1.5203 T1.34df T1.523b T1.5246 T1.5272 T1.5277 T1.3515 T1.52c7 T1.52c9
  T1.52e4 T1.52fa S2.5305 T1.5317 T1.5349 T1.5351 T1.535a T1.5373 T1.537d T3.537f T1.20a2c
  T1.7070 T1.53ca T1.53df T1.20b63 T1.53eb T1.53f1 T1.5406 T1.549e T1.5438 T1.5448 T1.5468
  T1.54a2 T1.54f6 T1.5510 T1.5553 T1.5563 T2.5584 T1.5599 T1.55ab T1.55b3 T1.55c2 T1.5716
  T1.5606 T1.5717 T1.5651 T1.5674 T1.5207 T1.58ee T1.57ce T1.57f4 T1.580d T1.578b T1.5832
  T1.5831 T1.58ac T1.214e4 T1.58f2 T1.58f7 T1.5906 T1.591a T1.5922 T1.5962 T1.216a8 T1.216ea
  T1.59ec T1.5a1b T1.5a27 T1.59d8 T1.5a66 T1.36ee T1.36fc T1.5b08 T2.5b3e T1.219c8 T1.5bc3
  T1.5bd8 T1.5be7 T1.5bf3 T1.21b18 T1.5bff T1.5c06 T1.5f53 T1.5c22 T1.3781 T1.5c60 T1.5c6e
  T1.5cc0 T1.5c8d T1.21de4 T1.5d43 T1.21de6 T1.5d6e T1.5d6b T1.5d7c S2.5de1 T1.382f T1.5dfd
  T1.5e28 T1.5e3d T1.5e69 T1.3862 T1.22183 T1.387c T1.5eb0 T1.5eb3 T1.5eb6 T1.5eca T1.2a392
  T1.5efe T2.22331 T1.8201 T2.5f22 T1.38c7 T1.232b8 T1.261da T1.5f62 T1.5f6b T1.38e3 T1.5f9a
  T1.5fcd T1.5fd7 T1.5ff9 T1.6081 T1.393a T1.391c T1.6094 T1.226d4 T1.60c7 T1.6148 T1.614c
  T1.614e T1.614c T1.617a T1.618e T1.61b2 T1.61a4 T1.61af T1.61de T1.61f2 T1.61f6 T1.6210
  T1.621b T1.625d T1.62b1 T1.62d4 T1.6350 T1.22b0c T1.633d T1.62fc T1.6368 T1.6383 T1.63e4
  T1.22bf1 T1.6422 T1.63c5 T1.63a9 T1.3a2e T1.6469 T1.647e T1.649d T1.6477 T1.3a6c T1.654f
  T1.656c T1.2300a T1.65e3 T1.66f8 T1.6649 T1.3b19 T1.6691 T1.3b08 T1.3ae4 T1.5192 T1.5195
  T1.6700 T1.669c T1.80ad T1.43d9 T1.6717 T1.671b T1.6721 T1.675e T1.6753 T1.233c3 T1.3b49
  T1.67fa T1.6785 T1.6852 T1.6885 T1.2346d T1.688e T1.681f T1.6914 T1.3b9d T1.6942 T1.69a3
  T1.69ea T1.6aa8 T1.236a3 T1.6adb T1.3c18 T1.6b21 T1.238a7 T1.6b54 T1.3c4e T1.6b72 T1.6b9f
  S2.6bba T1.23a8d T1.21d0b T1.23afa T1.6c4e T1.23cbc T1.6cbf T1.6ccd T1.6c67 T1.6d16 T1.6d3e
  T1.6d77 T1.6d41 T1.6d69 T1.6d78 T1.6d85 T1.23d1e T1.6d34 T1.6e2f T1.6e6e T1.3d33 T1.6ecb
  T1.6ec7 T1.23ed1 T1.6df9 T1.6f6e T1.23f5e T1.23f8e T1.6fc6 T1.7039 T1.701e T1.701b T1.3d96
  T1.704a T1.707d T1.7077 T1.70ad T1.20525 T1.7145 T1.24263 T1.719c T1.243ab T1.7228 T1.7235
  T1.7250 T1.24608 T1.7280 T1.7295 T1.24735 T1.24814 T1.737a T1.738b T1.3eac T1.73a5 T2.3eb8
  T1.7447 T1.745c T1.7471 T1.7485 T1.74ca T1.3f1b T1.7524 T1.24c36 T1.753e T1.24c92 T1.7570
  T1.2219f T1.7610 T1.24fa1 T1.24fb8 T1.25044 T1.3ffc T1.4008 T1.76f4 T1.250f3 T1.250f2 T1.25119
  T1.25133 S2.771e T1.771f T1.774a T1.4039 T1.778b T1.4046 T1.4096 T1.2541d T1.784e T1.788c
  T1.78cc T1.40e3 T1.25626 T1.7956 T1.2569a T1.256c5 T1.798f T1.79eb T1.412f T1.7a40 T1.7a4a
  T1.7a4f T1.2597c T2.25aa7 T1.7aee T1.4202 T1.25bab T1.7bc6 T1.7bc9 T1.4227 T1.25c80 T1.7cd2
  T1.42a0 T1.7ce8 T1.7ce3 T1.7d00 T1.25f86 T1.7d63 T1.4301 T1.7dc7 T1.7e02 T1.7e45 T1.4334
  T1.26228 T1.26247 T1.4359 T1.262d9 T1.7f7a T1.2633e T1.7f95 T1.7ffa T1.8005 T1.264da T1.26523
  T1.8060 T1.265a8 T1.8070 T1.2335f T1.43d5 T1.80b2 T1.8103 T1.440b T1.813e T1.5ab5 T1.267a7
  T1.267b5 T1.23393 T1.2339c T1.8201 T1.8204 T1.8f9e T1.446b T1.8291 T1.828b T1.829d T1.52b3
  T1.82b1 T1.82b3 T1.82bd T1.82e6 T1.26b3c T1.82e5 T1.831d T1.8363 T1.83ad T1.8323 T1.83bd
  T1.83e7 T1.8457 T1.8353 T1.83ca T1.83cc T1.83dc T1.26c36 T1.26d6b T1.26cd5 T1.452b T1.84f1
  T1.84f3 T1.8516 T1.273ca T1.8564 T1.26f2c T1.455d T1.4561 T1.26fb1 T1.270d2 T1.456b T1.8650
  T1.865c T1.8667 T1.8669 T1.86a9 T1.8688 T1.870e T1.86e2 T1.8779 T1.8728 T1.876b T1.8786
  T1.45d7 T1.87e1 T1.8801 T1.45f9 T1.8860 T1.8863 T1.27667 T1.88d7 T1.88de T1.4635 T1.88fa
  T1.34bb T1.278ae T1.27966 T1.46be T1.46c7 T1.8aa0 T1.8aed T1.8b8a T1.8c55 T1.27ca8 T1.8cab
  T1.8cc1 T1.8d1b T1.8d77 T1.27f2f T1.20804 T1.8dcb T1.8dbc T1.8df0 T1.208de T1.8ed4 T1.8f38
  T1.285d2 T1.285ed T1.9094 T1.90f1 T1.9111 T1.2872e T1.911b T1.9238 S2.92d7 T1.927c T1.93f9
  T1.9415 T1.28bfa T1.958b T1.4995 T1.95b7 T1.28d77 T1.49e6 T1.96c3 T1.5db2 T1.9723 T1.29145
  T1.2921a T1.4a6e T1.4a76 T1.97e0 T1.2940a T1.4ab2 T1.29496 T2.980b T1.9829 T1.295b6 T1.98e2
  T1.4b33 T1.9929 T1.99a7 T1.99c2 T1.99fe T1.4bce T1.29b30 T1.9b12 T1.9c40 T1.9cfd T1.4cce
  T1.4ced T1.9d67 T1.2a0ce T1.4cf8 T1.2a105 T1.2a20e T1.2a291 T1.9ebb T1.4d56 T1.9ef9 T1.9efe
  T1.9f05 T1.9f0f T1.9f16 T1.9f3b T1.2a600 X5e2 K134b X5 K212a Xacc86 Tf0"

end MediaProxy.Domain
